/-!
# References into the input

A path of a condition becomes a reference into the input of a policy. A segment that stands for
every element of a list is written differently there, and the reference begins with the name of
the input.
-/

namespace ManifestPolicy.Reference

/-- The path with every `[*]` written as `[_]`. -/
def withAny : List Char → List Char
  | [] => []
  | '[' :: '*' :: ']' :: rest => '[' :: '_' :: ']' :: withAny rest
  | c :: rest => c :: withAny rest

/-- What a reference begins with. -/
def root : List Char := "input.".toList

/-- The reference to a path, which may be rooted already. -/
def ofPath (path : List Char) : List Char :=
  let p := withAny path
  if root.isPrefixOf p then p else root ++ p

/-- The reference to a path as a string. -/
def ofString (path : String) : String := String.ofList (ofPath path.toList)

example : ofString "spec.containers[*].image" = "input.spec.containers[_].image" := by decide

end ManifestPolicy.Reference

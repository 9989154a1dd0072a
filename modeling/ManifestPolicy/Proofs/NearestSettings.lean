import ManifestPolicy.Proofs.FileFrame
import ManifestPolicy.Proofs.Outcome
import ManifestPolicy.Proofs.PathText
import ManifestPolicy.Settings.File
import Mathlib.Data.List.Induction

/-!
# The nearest settings file

A search for settings begins where its directory resolves to, and goes up name
by name until there is a settings file, or no name is left. In a tree this
finds the file in the deepest directory on the way up that has one, whether
the directory to begin with is there or not: a file that is there stands in a
directory, which stands in one in turn, so what is missing or no directory
holds no settings, and the search goes on above it
(`FileSystem.walk_error`).

There is one more way for a search to end. The system may refuse to look for a
file, when its path is too long or a name in it is, and then the search does
not go on. It is only at its first step that this can happen, for what is too
long above is too long below as well (`tooLong_below`). Apart from that, and
from directories that name nothing, the search finds what is nearest, and
nothing exactly if there is nothing on the way up (`find_nearest`). All this is
about directories that may be searched; one that may not would end the search
too, but what may be done with files is left out here.
-/

namespace ManifestPolicy

namespace Path

/-- Every name of the location is one that files can have. -/
structure Named (l : Location) : Prop where
  noWayBack : ".." ∉ l
  noNull : (ofLocation l).hasNull = false

theorem named_iff {l : Location} :
    Named l ↔ ∀ name ∈ l, name ≠ ".." ∧ '\x00' ∉ name.toList := by
  have hnull : (ofLocation l).hasNull = false ↔ ∀ name ∈ l, '\x00' ∉ name.toList := by
    simp [hasNull, ofLocation]
  constructor
  · intro h name hname
    exact ⟨fun e => h.noWayBack (e ▸ hname), hnull.1 h.noNull name hname⟩
  · intro h
    exact ⟨fun hback => (h _ hback).1 rfl, hnull.2 fun name hname => (h name hname).2⟩

theorem Named.of_prefix {l l' : Location} (h : Named l) (hl : l' <+: l) : Named l' :=
  named_iff.2 fun name hname => named_iff.1 h name (hl.subset hname)

/-- A path leads to named files only, if what it starts from is named and it has a name itself. -/
theorem named_locationFrom {here : Location} {p : Path} (h : Named here)
    (hp : p.hasNull = false) : Named (p.locationFrom here) := by
  rw [hasNull, List.any_eq_false] at hp
  rw [locationFrom_eq]
  have hstart : Named (if p.root = .none then here else []) := by
    split
    · exact h
    · exact named_iff.2 (List.forall_mem_nil _)
  refine named_iff.2 fun name hname => ⟨?_, ?_⟩
  · rintro rfl
    exact dots_not_mem_follow hstart.noWayBack p.parts hname
  · rcases mem_follow hname with hname | hname
    · exact (named_iff.1 hstart name hname).2
    · simpa using hp name hname

end Path

namespace FileSystem

/-- Whatever is listed stands in a directory, and paths without a root start from a location that
is named. -/
structure IsTree (fs : FileSystem) : Prop where
  listed : ∀ p ∈ fs.entries, fs.entry? p.1.dropLast = some .directory
  here : Path.Named fs.base.here

variable {fs : FileSystem} {from_ l m : Location} {e : Entry} {parts : List String}

theorem IsTree.parent (h : fs.IsTree) (he : fs.entry? l = some e) :
    fs.entry? l.dropLast = some .directory := by
  unfold entry? at he
  split at he
  · next hl => rw [hl]; rfl
  · obtain ⟨p, hp, -⟩ := Option.map_eq_some_iff.1 he
    have hkey : p.1 = l := by simpa using List.find?_some hp
    rw [← hkey]
    exact h.listed p (List.mem_of_find?_eq_some hp)

/-- All that is above something is a directory. -/
theorem IsTree.above (h : fs.IsTree) (he : fs.entry? (l ++ parts) = some e) (hne : parts ≠ []) :
    fs.entry? l = some .directory := by
  induction parts using List.reverseRecOn generalizing e with
  | nil => exact absurd rfl hne
  | append_singleton front name ih =>
      have hparent := h.parent he
      rw [← List.append_assoc, List.dropLast_concat] at hparent
      by_cases hfront : front = []
      · rw [hfront, List.append_nil] at hparent
        exact hparent
      · exact ih hparent hfront

/-- A name that is too long stands behind a directory on the way to a location. -/
def LongName (fs : FileSystem) (l : Location) : Prop :=
  ∃ above name, above ++ [name] <+: l ∧ fs.entry? above = some .directory ∧
    maxName < name.utf8ByteSize

/-- The first name that is too long ends a way. -/
theorem IsTree.walk_long (h : fs.IsTree) {front more : List String} {name : String}
    (hnames : ".." ∉ front ++ name :: more) (hd : fs.entry? (from_ ++ front) = some .directory)
    (hname : maxName < name.utf8ByteSize) :
    fs.walk from_ (front ++ name :: more) = .error .nameTooLong := by
  induction front generalizing from_ with
  | nil =>
      rw [List.append_nil] at hd
      rw [List.nil_append, List.mem_cons, not_or] at hnames
      rw [List.nil_append, walk, hd]
      dsimp only
      rw [if_neg (Ne.symm hnames.1), if_pos hname]
  | cons first front ih =>
      rw [List.cons_append, List.mem_cons, not_or] at hnames
      rw [List.cons_append, walk, h.above hd (List.cons_ne_nil _ _)]
      dsimp only
      rw [if_neg (Ne.symm hnames.1)]
      split
      · rfl
      · rw [← List.singleton_append, ← List.append_assoc] at hd
        exact ih hnames.2 hd

/-- A way ends early at a name that is too long, or else there is nothing at its end. -/
theorem IsTree.walk_error (h : fs.IsTree) {fault : FileFault} (hnames : ".." ∉ parts)
    (hw : fs.walk from_ parts = .error fault) :
    (fault = .nameTooLong ∧ ∃ front name, front ++ [name] <+: parts ∧
      fs.entry? (from_ ++ front) = some .directory ∧ maxName < name.utf8ByteSize) ∨
    ((fault = .missing ∨ fault = .notDirectory) ∧ fs.entry? (from_ ++ parts) = none) := by
  induction parts generalizing from_ with
  | nil =>
      rw [walk] at hw
      cases hw
  | cons part rest ih =>
      rw [List.mem_cons, not_or] at hnames
      have nothing (hd : fs.entry? from_ ≠ some .directory) :
          fs.entry? (from_ ++ part :: rest) = none :=
        Option.eq_none_iff_forall_ne_some.2 fun _ he => hd (h.above he (List.cons_ne_nil _ _))
      rw [walk] at hw
      split at hw
      · next hd =>
          injection hw with hw
          exact .inr ⟨.inl hw.symm, nothing (by simp [hd])⟩
      · next hd =>
          injection hw with hw
          exact .inr ⟨.inr hw.symm, nothing (by simp [hd])⟩
      · next hd =>
          rw [if_neg (Ne.symm hnames.1)] at hw
          split at hw
          · next hlong =>
              injection hw with hw
              refine .inl ⟨hw.symm, [], part, ⟨rest, rfl⟩, ?_, hlong⟩
              rw [List.append_nil]
              exact hd
          · have happend : from_ ++ part :: rest = from_ ++ [part] ++ rest := by simp
            rcases ih hnames.2 hw with ⟨hfault, front, name, hfront, hd, hlong⟩ | ⟨hfault, hnone⟩
            · refine .inl ⟨hfault, part :: front, name, ?_, ?_, hlong⟩
              · exact List.cons_prefix_cons.2 ⟨rfl, hfront⟩
              · rw [← hd]
                simp
            · rw [happend]
              exact .inr ⟨hfault, hnone⟩

/-- A way that does not end early meets with no name that is too long. -/
theorem walk_ok (hw : fs.walk from_ parts = .ok l) (hnames : ".." ∉ parts) :
    l = from_ ++ parts ∧ ∀ name ∈ parts, ¬ maxName < name.utf8ByteSize := by
  refine ⟨(follow_of_walk hw).symm.trans (Path.follow_names hnames from_), ?_⟩
  induction parts generalizing from_ with
  | nil => exact List.forall_mem_nil _
  | cons part rest ih =>
      rw [List.mem_cons, not_or] at hnames
      rw [walk] at hw
      split at hw
      · cases hw
      · cases hw
      · rw [if_neg (Ne.symm hnames.1)] at hw
        split at hw
        · cases hw
        · next hshort => exact List.forall_mem_cons.2 ⟨hshort, ih hw hnames.2⟩

/-- The system refuses to look at a location: the path to it is too long, or a name on the way. -/
def TooLong (fs : FileSystem) (l : Location) : Prop :=
  maxPath < (Path.ofLocation l).text.utf8ByteSize ∨ fs.LongName l

theorem locate_ofLocation (hnull : (Path.ofLocation l).hasNull = false)
    (hpath : ¬ maxPath < (Path.ofLocation l).text.utf8ByteSize) :
    fs.locate (.ofLocation l) =
      (fs.walk [] l).mapError fun fault => .system fault (.ofLocation l) := by
  have hstart : fs.start (Path.ofLocation l) = [] := rfl
  have hparts : (Path.ofLocation l).parts = l := rfl
  have hfound : fs.isLost (Path.ofLocation l) = false := Bool.and_false _
  rw [locate, if_neg (by rw [hnull]; decide), if_neg hpath, hfound, if_neg (by decide), hstart,
    hparts]
  cases fs.walk [] l with
  | ok _ => rfl
  | error _ => rfl

/-- What a look at a location comes to. -/
theorem IsTree.isThere_cases (h : fs.IsTree) (hnamed : Path.Named l) :
    (fs.TooLong l ∧
      fs.isThere (.ofLocation l) = .error (.system .nameTooLong (.ofLocation l))) ∨
    (¬ fs.TooLong l ∧ fs.isThere (.ofLocation l) = .ok (fs.entry? l).isSome) := by
  obtain ⟨hnames, hnull⟩ := hnamed
  by_cases hpath : maxPath < (Path.ofLocation l).text.utf8ByteSize
  · refine .inl ⟨.inl hpath, ?_⟩
    rw [isThere, status?, status, locate, if_neg (by rw [hnull]; decide), if_pos hpath]
    rfl
  have hlocate : fs.locate (.ofLocation l) = _ := locate_ofLocation hnull hpath
  cases hwalk : fs.walk [] l with
  | ok end_ =>
      obtain ⟨hend, hshort⟩ := walk_ok hwalk hnames
      rw [List.nil_append] at hend
      subst hend
      refine .inr ⟨?_, ?_⟩
      · rintro (hlong | ⟨above, name, hway, -, hlong⟩)
        · exact hpath hlong
        · exact hshort name (hway.subset (by simp)) hlong
      · rw [isThere, status?, status, hlocate, hwalk]
        dsimp only [Except.mapError]
        cases fs.entry? end_ <;> rfl
  | error fault =>
      rcases h.walk_error hnames hwalk with ⟨rfl, above, name, hway, hd, hlong⟩ | ⟨hfault, hnone⟩
      · refine .inl ⟨.inr ⟨above, name, hway, hd, hlong⟩, ?_⟩
        rw [isThere, status?, status, hlocate, hwalk]
        rfl
      · rw [List.nil_append] at hnone
        refine .inr ⟨?_, ?_⟩
        · rintro (hlong | ⟨above, name, ⟨more, hmore⟩, hd, hlong⟩)
          · exact hpath hlong
          · rw [List.append_assoc, List.singleton_append] at hmore
            rw [← hmore] at hnames hwalk
            have htoo : fs.walk [] (above ++ name :: more) = .error .nameTooLong :=
              h.walk_long hnames hd hlong
            rw [htoo] at hwalk
            cases hwalk
            rcases hfault with hfault | hfault <;> cases hfault
        · rw [isThere, status?, status, hlocate, hwalk, hnone]
          rcases hfault with rfl | rfl <;> rfl

end FileSystem

namespace Settings

variable {files : FileSystem} {dir found : Location}

/-- Where the settings file of a directory is. -/
def fileAt (dir : Location) : Location := dir ++ [fileName]

/-- There is a settings file in the directory. -/
def Holds (files : FileSystem) (dir : Location) : Prop := (files.entry? (fileAt dir)).isSome = true

/-- Of the directory and those above it, this is the deepest one with a settings file. -/
structure Nearest (files : FileSystem) (dir found : Location) : Prop where
  above : found <+: dir
  holds : Holds files found
  deepest : ∀ d, d <+: dir → Holds files d → d <+: found

theorem Nearest.unique {found' : Location} (h : Nearest files dir found)
    (h' : Nearest files dir found') : found = found' :=
  (h'.deepest found h.above h.holds).eq_of_length_le
    (h.deepest found' h'.above h'.holds).length_le

/-! ## Above what can be looked at -/

theorem size_intercalate_cons (name : String) {names : List String} (hne : names ≠ []) :
    ("/".intercalate (name :: names)).utf8ByteSize =
      name.utf8ByteSize + 1 + ("/".intercalate names).utf8ByteSize := by
  obtain ⟨next, names, rfl⟩ := List.exists_cons_of_ne_nil hne
  rw [String.intercalate_cons_cons, String.utf8ByteSize_append, String.utf8ByteSize_append]
  rfl

theorem size_fileAt_le (dir more : Location) :
    (Path.ofLocation (fileAt dir)).text.utf8ByteSize ≤
      (Path.ofLocation (fileAt (dir ++ more))).text.utf8ByteSize := by
  have htext (l : Location) : (Path.ofLocation l).text = "/" ++ "/".intercalate l := rfl
  have hne (l : Location) : l ++ [fileName] ≠ [] := by simp
  rw [htext, htext, String.utf8ByteSize_append, String.utf8ByteSize_append, fileAt, fileAt]
  refine Nat.add_le_add_left ?_ _
  induction dir with
  | nil =>
      induction more with
      | nil => exact Nat.le_refl _
      | cons name more ih =>
          simp only [List.nil_append, List.cons_append] at ih ⊢
          rw [size_intercalate_cons name (hne more)]
          omega
  | cons name dir ih =>
      rw [List.cons_append, List.cons_append, List.cons_append,
        size_intercalate_cons name (hne dir), size_intercalate_cons name (hne (dir ++ more))]
      omega

/-- What is too long in a directory is too long in all directories below it. -/
theorem tooLong_below {d : Location} (hd : d <+: dir) (h : files.TooLong (fileAt d)) :
    files.TooLong (fileAt dir) := by
  obtain ⟨more, rfl⟩ := hd
  rcases h with hpath | ⟨above, name, hway, hdir, hlong⟩
  · exact .inl (Nat.lt_of_lt_of_le hpath (size_fileAt_le d more))
  · refine .inr ⟨above, name, ?_, hdir, hlong⟩
    rcases List.prefix_concat_iff.1 hway with heq | hway
    · -- The name of the settings file itself is short enough.
      have hname : name = fileName := List.singleton_inj.1 (List.append_inj_right' heq rfl)
      rw [hname] at hlong
      exact absurd hlong (by decide)
    · exact hway.trans ((List.prefix_append d more).trans (List.prefix_append _ _))

/-! ## Going up -/

theorem findAbove_of_error {names : List String} {e : FileError}
    (h : files.isThere (.ofLocation (fileAt names.reverse)) = .error e) :
    findAbove files names = .error e := by
  unfold fileAt at h
  cases names with
  | nil => exact bind_eq_error.2 (.inl h)
  | cons name above => exact bind_eq_error.2 (.inl h)

theorem findAbove_of_there {names : List String}
    (h : files.isThere (.ofLocation (fileAt names.reverse)) = .ok true) :
    findAbove files names = .ok (some (.ofLocation (fileAt names.reverse))) := by
  unfold fileAt at h ⊢
  cases names with
  | nil => exact bind_eq_ok.2 ⟨true, h, rfl⟩
  | cons name above => exact bind_eq_ok.2 ⟨true, h, rfl⟩

theorem findAbove_of_none {name : String} {above : List String}
    (h : files.isThere (.ofLocation (fileAt (name :: above).reverse)) = .ok false) :
    findAbove files (name :: above) = findAbove files above := by
  unfold fileAt at h
  rw [findAbove, h]
  rfl

theorem Nearest.of_above {name : String} (h : Nearest files dir found)
    (hnone : ¬ Holds files (dir ++ [name])) : Nearest files (dir ++ [name]) found where
  above := h.above.trans (List.prefix_append _ _)
  holds := h.holds
  deepest d hd hholds := by
    rcases List.prefix_concat_iff.1 hd with rfl | hd
    · exact absurd hholds hnone
    · exact h.deepest d hd hholds

theorem named_fileAt (h : Path.Named dir) : Path.Named (fileAt dir) := by
  refine Path.named_iff.2 fun name hname => ?_
  rcases List.mem_append.1 hname with hname | hname
  · exact Path.named_iff.1 h name hname
  · rw [List.mem_singleton.1 hname]
    decide

/-- In a directory where the search can look, it sees whether there is a settings file. -/
theorem isThere_fileAt (h : files.IsTree) (hnamed : Path.Named dir)
    (hlook : ¬ files.TooLong (fileAt dir)) :
    (Holds files dir ∧ files.isThere (.ofLocation (fileAt dir)) = .ok true) ∨
    (¬ Holds files dir ∧ files.isThere (.ofLocation (fileAt dir)) = .ok false) := by
  rcases h.isThere_cases (named_fileAt hnamed) with ⟨hlong, -⟩ | ⟨-, hthere⟩
  · exact absurd hlong hlook
  · rw [hthere]
    unfold Holds
    cases (files.entry? (fileAt dir)).isSome <;> simp

theorem found_at_once (hholds : Holds files dir)
    (hthere : files.isThere (.ofLocation (fileAt dir)) = .ok true) :
    ∃ found, Nearest files dir found ∧
      findAbove files dir.reverse = .ok (some (.ofLocation (fileAt found))) := by
  refine ⟨dir, ⟨List.prefix_rfl, hholds, fun d hd _ => hd⟩, ?_⟩
  rw [← List.reverse_reverse dir] at hthere
  rw [findAbove_of_there hthere, List.reverse_reverse]

/-- From a directory where it can look, the search finds what is nearest, or finds nothing because
there is nothing. -/
theorem findAbove_cases (h : files.IsTree) (hnamed : Path.Named dir)
    (hlook : ¬ files.TooLong (fileAt dir)) :
    (∃ found, Nearest files dir found ∧
      findAbove files dir.reverse = .ok (some (.ofLocation (fileAt found)))) ∨
    ((∀ d, d <+: dir → ¬ Holds files d) ∧ findAbove files dir.reverse = .ok none) := by
  -- The search goes up from the innermost name, so the induction takes names off the end.
  induction dir using List.reverseRecOn with
  | nil =>
      rcases isThere_fileAt h hnamed hlook with ⟨hholds, hthere⟩ | ⟨hnone, hthere⟩
      · exact .inl (found_at_once hholds hthere)
      · refine .inr ⟨fun d hd => ?_, bind_eq_ok.2 ⟨false, hthere, rfl⟩⟩
        rw [List.prefix_nil.1 hd]
        exact hnone
  | append_singleton dir name ih =>
      rcases isThere_fileAt h hnamed hlook with ⟨hholds, hthere⟩ | ⟨hnone, hthere⟩
      · exact .inl (found_at_once hholds hthere)
      · have habove : dir <+: dir ++ [name] := List.prefix_append _ _
        have hup : findAbove files (dir ++ [name]).reverse = findAbove files dir.reverse := by
          rw [List.reverse_concat]
          refine findAbove_of_none ?_
          rw [List.reverse_cons, List.reverse_reverse]
          exact hthere
        rw [hup]
        have hdir := ih (hnamed.of_prefix habove) fun hlong => hlook (tooLong_below habove hlong)
        rcases hdir with ⟨found, hfound, hfind⟩ | ⟨hall, hfind⟩
        · exact .inl ⟨found, hfound.of_above hnone, hfind⟩
        · refine .inr ⟨fun d hd => ?_, hfind⟩
          rcases List.prefix_concat_iff.1 hd with rfl | hd
          · exact hnone
          · exact hall d hd

/-- Why a search cannot look for settings: its directory holds a null character, or starts from
one that was removed, or the system refuses to look for a file there. -/
inductive Refused (files : FileSystem) (start : Path) : FileError → Prop
  | null (hnull : start.hasNull = true) : Refused files start .nullInPath
  | stranded (hnull : start.hasNull = false) (hlost : files.isLost start = true) :
      Refused files start .stranded
  | tooLong (hnull : start.hasNull = false) (hfound : files.isLost start = false)
      (hlong : files.TooLong (fileAt (start.locationFrom files.base.here))) :
      Refused files start
        (.system .nameTooLong (.ofLocation (fileAt (start.locationFrom files.base.here))))

/-- Nothing keeps a search from looking for settings. -/
def CanLook (files : FileSystem) (start : Path) : Prop := ∀ e, ¬ Refused files start e

theorem Refused.unique {start : Path} {e e' : FileError} (h : Refused files start e)
    (h' : Refused files start e') : e = e' := by
  cases h <;> cases h' <;> first | rfl | simp_all

/-- The ways in which a search ends. -/
theorem find_cases (h : files.IsTree) (start : Path) :
    (∃ e, Refused files start e ∧ find files start = .error e) ∨
    CanLook files start ∧
      ((∃ found, Nearest files (start.locationFrom files.base.here) found ∧
        find files start = .ok (some (.ofLocation (fileAt found)))) ∨
      (∀ d, d <+: start.locationFrom files.base.here → ¬ Holds files d) ∧
        find files start = .ok none) := by
  cases hnull : start.hasNull with
  | true =>
      refine .inl ⟨_, .null hnull, bind_eq_error.2 (.inl ?_)⟩
      rw [FileSystem.resolve, if_pos hnull]
  | false =>
      cases hlost : files.isLost start with
      | true =>
          refine .inl ⟨_, .stranded hnull hlost, bind_eq_error.2 (.inl ?_)⟩
          rw [FileSystem.resolve, if_neg (by rw [hnull]; decide), if_pos hlost]
      | false =>
          have hresolve : files.resolve start = .ok (start.locationFrom files.base.here) :=
            FileSystem.resolve_ok_iff.2 ⟨hnull, hlost, rfl⟩
          have hfind : find files start =
              findAbove files (start.locationFrom files.base.here).reverse := by
            rw [find, hresolve]
            rfl
          have hnamed := Path.named_locationFrom h.here hnull
          rw [hfind]
          by_cases hlong : files.TooLong (fileAt (start.locationFrom files.base.here))
          · refine .inl ⟨_, .tooLong hnull hlost hlong, findAbove_of_error ?_⟩
            rw [List.reverse_reverse]
            rcases h.isThere_cases (named_fileAt hnamed) with ⟨-, hthere⟩ | ⟨hshort, -⟩
            · exact hthere
            · exact absurd hlong hshort
          · refine .inr ⟨fun e he => ?_, findAbove_cases h hnamed hlong⟩
            cases he with
            | null hnull' =>
                rw [hnull] at hnull'
                cases hnull'
            | stranded _ hlost' =>
                rw [hlost] at hlost'
                cases hlost'
            | tooLong _ _ hlong' => exact hlong hlong'

/-- In a tree of files, a search that can look for settings finds the settings file of the deepest
directory that has one, among the one that its start resolves to and those above it, and finds
nothing exactly if none of them has one. It fails exactly if it cannot look, and says why.
Directories that may not be searched are left out. -/
theorem find_nearest (h : files.IsTree) (start : Path) :
    (∀ file, find files start = .ok (some file) ↔ CanLook files start ∧
      ∃ found, Nearest files (start.locationFrom files.base.here) found ∧
        file = .ofLocation (fileAt found)) ∧
    (find files start = .ok none ↔ CanLook files start ∧
      ∀ d, d <+: start.locationFrom files.base.here → ¬ Holds files d) ∧
    ∀ e, find files start = .error e ↔ Refused files start e := by
  rcases find_cases h start with
    ⟨e, hrefused, hfind⟩ | ⟨hlook, ⟨found, hfound, hfind⟩ | ⟨hnone, hfind⟩⟩
  · have hlook : ¬ CanLook files start := fun hlook => hlook e hrefused
    refine ⟨fun file => ?_, ?_, fun e' => ?_⟩
    · rw [hfind]
      exact iff_of_false (by simp) fun h => hlook h.1
    · rw [hfind]
      exact iff_of_false (by simp) fun h => hlook h.1
    · rw [hfind, Except.error.injEq]
      exact ⟨fun he => he ▸ hrefused, hrefused.unique⟩
  · refine ⟨fun file => ?_, ?_, fun e => ?_⟩
    · rw [hfind, Except.ok.injEq, Option.some.injEq]
      refine ⟨fun h => ⟨hlook, found, hfound, h.symm⟩, ?_⟩
      rintro ⟨-, found', hfound', rfl⟩
      rw [hfound.unique hfound']
    · rw [hfind]
      exact iff_of_false (by simp) fun h => h.2 found hfound.above hfound.holds
    · rw [hfind]
      exact iff_of_false (by simp) (hlook e)
  · refine ⟨fun file => ?_, iff_of_true hfind ⟨hlook, hnone⟩, fun e => ?_⟩
    · rw [hfind]
      exact iff_of_false (by simp) fun ⟨_, found, hfound, _⟩ => hnone found hfound.above hfound.holds
    · rw [hfind]
      exact iff_of_false (by simp) (hlook e)

/-- A search from a directory that is not there, named with points and ways back. -/
theorem find_nearest_from_nowhere :
    let files : FileSystem := ⟨[(["w"], .directory), (["w", ".kubepolicy.json"], .file ⟨#[]⟩),
      (["w", "a"], .directory)], { here := ["w", "a"] }⟩
    let start := Path.ofString "b/../.././a/c"
    files.IsTree ∧ find files start = .ok (some (.ofLocation (fileAt ["w"]))) ∧
      ∃ found, Nearest files (start.locationFrom files.base.here) found ∧
        Path.ofLocation (fileAt ["w"]) = .ofLocation (fileAt found) := by
  intro files start
  have htree : files.IsTree := ⟨by decide, Path.named_iff.2 (by decide)⟩
  have hfind : find files start = .ok (some (.ofLocation (fileAt ["w"]))) := by decide +kernel
  exact ⟨htree, hfind, (((find_nearest htree start).1 _).1 hfind).2⟩

/-- A name that is too long is refused in a directory that is there. -/
theorem refused_of_long_name {name : String} (hslash : '/' ∉ name.toList)
    (hnull : '\x00' ∉ name.toList) (hlong : FileSystem.maxName < name.utf8ByteSize)
    (hhere : files.entry? files.base.here = some .directory)
    (hkept : files.base.stranded = false) :
    ∃ e, Refused files (.ofString name) e := by
  have hne (short : String) (h : short.utf8ByteSize ≤ FileSystem.maxName) : name ≠ short :=
    fun heq => absurd hlong (heq ▸ Nat.not_lt.2 h)
  have hpath : Path.ofString name = ⟨.none, [name]⟩ := by
    have htext : Path.text ⟨.none, [name]⟩ = name := by simp [Path.text, Path.Root.text]
    have hreadable : Path.Readable ⟨.none, [name]⟩ :=
      List.forall_mem_singleton.2 ⟨hne _ (by decide), hne _ (by decide), hslash⟩
    rw [← htext, Path.ofString_text hreadable, htext]
  have hlocation :
      Path.locationFrom files.base.here ⟨.none, [name]⟩ = files.base.here ++ [name] := by
    simp [Path.locationFrom, Path.follow, hne ".." (by decide)]
  rw [hpath]
  refine ⟨_, .tooLong (by simp [Path.hasNull, hnull]) ?_ (.inr ?_)⟩
  · rw [FileSystem.isLost, hkept]
    rfl
  rw [hlocation]
  exact ⟨files.base.here, name, List.prefix_append _ _, hhere, hlong⟩

theorem size_replicate (n : Nat) (c : Char) :
    (String.ofList (List.replicate n c)).utf8ByteSize = n * c.utf8Size := by
  induction n with
  | zero => simp
  | succ n ih =>
      rw [List.replicate_succ, String.ofList_cons, String.utf8ByteSize_append, ih,
        String.utf8ByteSize_singleton, Nat.succ_mul, Nat.add_comm]

/-- Nothing is there, and yet a search fails: the name of the directory is too long for the system
to say so. -/
theorem long_start_is_refused :
    let files : FileSystem := ⟨[], { here := [] }⟩
    let start := Path.ofString (String.ofList (List.replicate 256 'a'))
    files.IsTree ∧ (∀ d, d <+: start.locationFrom files.base.here → ¬ Holds files d) ∧
      find files start ≠ .ok none := by
  intro files start
  have htree : files.IsTree := ⟨List.forall_mem_nil _, Path.named_iff.2 (List.forall_mem_nil _)⟩
  refine ⟨htree, fun d _ => ?_, ?_⟩
  · have hne : fileAt d ≠ [] := by simp [fileAt]
    simp [Holds, FileSystem.entry?, files, hne]
  · obtain ⟨e, hrefused⟩ : ∃ e, Refused files start e := by
      have hchars {c : Char} (hc : c ≠ 'a') :
          c ∉ (String.ofList (List.replicate 256 'a')).toList := by
        rw [String.toList_ofList]
        exact fun h => hc (List.eq_of_mem_replicate h)
      refine refused_of_long_name (hchars (by decide)) (hchars (by decide)) ?_ rfl rfl
      rw [size_replicate]
      decide
    rcases find_cases htree start with ⟨_, _, hfind⟩ | ⟨hlook, _⟩
    · simp [hfind]
    · exact absurd hrefused (hlook e)

end Settings

end ManifestPolicy

import Fieldbus.Config.Files
import Mathlib.Data.List.Basic
import Mathlib.Tactic.Lemma
import Mathlib.Tactic.SplitIfs

/-!
# Paths and writes in a file tree

What stands at a place is nothing, a directory, or a file with its content, and where a path leads
depends on nothing else. Adding a directory keeps all that is there. A write that succeeds changes
one place, at which no directory was, and its path then leads to that place; hence the content is
read back, and every path that led somewhere before still leads there.
-/

namespace Fieldbus

namespace Node

/-- What a node shows at its place: a file its content, a directory nothing. -/
def content? : Node → Option (List UInt8)
  | .file content => some content
  | .directory _ => none

def at? (root : Node) (place : List String) : Option (Option (List UInt8)) :=
  (root.get? place).map content?

variable {root node new : Node} {entries : List (String × Node)} {name other : String}
  {place target : List String}

lemma at?_eq_some_none : root.at? place = some none ↔
    ∃ entries, root.get? place = some (.directory entries) := by
  unfold at?
  cases root.get? place with
  | none => simp
  | some node => cases node <;> simp [content?]

lemma at?_eq_some_some {content : List UInt8} :
    root.at? place = some (some content) ↔ root.get? place = some (.file content) := by
  unfold at?
  cases root.get? place with
  | none => simp
  | some node => cases node <;> simp [content?]

lemma find?_replace_self : find? name (replace name node entries) = some node := by
  induction entries with
  | nil => exact if_pos rfl
  | cons entry entries ih =>
    obtain ⟨n, old⟩ := entry
    rw [replace]
    by_cases h : n = name
    · rw [if_pos h, find?, if_pos h]
    · rw [if_neg h, find?, if_neg h, ih]

lemma find?_replace_of_ne (h : other ≠ name) :
    find? other (replace name node entries) = find? other entries := by
  induction entries with
  | nil => exact if_neg (Ne.symm h)
  | cons entry entries ih =>
    obtain ⟨n, old⟩ := entry
    rw [replace]
    by_cases hn : n = name
    · rw [if_pos hn, find?, if_neg (hn ▸ Ne.symm h), find?, if_neg (hn ▸ Ne.symm h)]
    · rw [if_neg hn, find?, find?, ih]

lemma get?_concat (root : Node) (place : List String) (name : String) :
    root.get? (place ++ [name]) = match root.get? place with
      | some (.directory entries) => find? name entries
      | _ => none := by
  induction place generalizing root with
  | nil =>
    cases root with
    | file content => rfl
    | directory entries =>
      cases hfound : find? name entries <;> simp [get?, hfound]
  | cons first place ih =>
    cases root with
    | file content => rfl
    | directory entries =>
      rw [List.cons_append, get?, get?]
      cases find? first entries with
      | none => rfl
      | some node => exact ih node

lemma get?_put_concat (h : root.get? place = some (.directory entries)) :
    (root.put (place ++ [name]) new).get? (place ++ [name]) = some new := by
  induction place generalizing root with
  | nil =>
    obtain rfl := Option.some.inj h
    rw [List.nil_append, put, get?, find?_replace_self]
    cases new <;> rfl
  | cons first place ih =>
    cases root with
    | file content => nomatch h
    | directory others =>
      rw [get?] at h
      cases hfirst : find? first others with
      | none => simp [hfirst] at h
      | some node =>
        rw [hfirst] at h
        rw [List.cons_append, put, get?, find?_replace_self, hfirst]
        exact ih h

/-- Below a place where no directory is there is nothing, so a new node there is the only change. -/
lemma at?_put_of_ne (htarget : root.at? target ≠ some none) (hne : place ≠ target)
    {shown : Option (List UInt8)} (h : root.at? place = some shown) :
    (root.put target new).at? place = some shown := by
  induction target generalizing root place with
  | nil =>
    cases place with
    | nil => exact absurd rfl hne
    | cons first place =>
      cases root with
      | file content => nomatch h
      | directory entries => exact absurd rfl htarget
  | cons name target ih =>
    cases root with
    | file content => exact h
    | directory entries =>
      cases place with
      | nil => exact h
      | cons first place =>
        unfold at? at h htarget ih ⊢
        rw [put, get?]
        rw [get?] at h
        by_cases hfirst : first = name
        · subst hfirst
          rw [find?_replace_self]
          cases hnode : find? first entries with
          | none => simp [hnode] at h
          | some node =>
            rw [hnode] at h
            rw [get?, hnode] at htarget
            exact ih htarget (fun heq => hne (heq ▸ rfl)) h
        · rw [find?_replace_of_ne hfirst]
          exact h

lemma at?_dropLast (h : root.at? place = some none) : root.at? place.dropLast = some none := by
  obtain rfl | ⟨front, name, rfl⟩ := List.eq_nil_or_concat place
  · exact h
  · rw [List.concat_eq_append, at?, get?_concat] at h
    rw [List.concat_eq_append, List.dropLast_concat, at?]
    split at h
    · rename_i hget
      rw [hget]
      rfl
    · nomatch h

end Node

lemma exists_of_bind_eq_ok {ε α β : Type} {x : Except ε α} {f : α → Except ε β} {b : β}
    (h : (x >>= f) = .ok b) : ∃ a, x = .ok a ∧ f a = .ok b := by
  cases x with
  | error fault => nomatch h
  | ok a => exact ⟨a, rfl, h⟩

namespace Files

/-! ## Where paths lead -/

section Steps

variable {files : Files} {place next : List String} {path name : String}

lemma directory_of_step (h : files.step place name = .ok next) :
    files.root.at? place = some none := by
  unfold step at h
  split at h
  · nomatch h
  · nomatch h
  · rename_i entries hget
    exact Node.at?_eq_some_none.mpr ⟨entries, hget⟩

lemma step_of_directory (h : files.root.at? place = some none) (name : String) :
    files.step place name =
      if name = "." then .ok place
      else if name = ".." then .ok place.dropLast
      else if Path.nameLimit < name.utf8ByteSize then .error .nameTooLong
      else if (files.root.at? (place ++ [name])).isSome then .ok (place ++ [name])
      else .error .notFound := by
  obtain ⟨entries, hget⟩ := Node.at?_eq_some_none.mp h
  have hentry : (files.root.at? (place ++ [name])).isSome = (Node.find? name entries).isSome := by
    rw [Node.at?, Option.isSome_map, Node.get?_concat, hget]
  rw [step, hget, hentry]

lemma directory_of_step_notFound (hplace : (files.root.at? place).isSome = true)
    (h : files.step place name = .error .notFound) : files.root.at? place = some none := by
  rw [Node.at?, Option.isSome_map] at hplace
  unfold step at h
  split at h
  · rename_i hget
    rw [hget] at hplace
    nomatch hplace
  · nomatch h
  · rename_i entries hget
    exact Node.at?_eq_some_none.mpr ⟨entries, hget⟩

lemma isSome_of_step (h : files.step place name = .ok next) :
    (files.root.at? next).isSome = true := by
  have hplace := directory_of_step h
  rw [step_of_directory hplace] at h
  split_ifs at h with hdot hdots hlong hentry
  · obtain rfl := Except.ok.inj h
    rw [hplace]
    rfl
  · obtain rfl := Except.ok.inj h
    rw [Node.at?_dropLast hplace]
    rfl
  · obtain rfl := Except.ok.inj h
    exact hentry

lemma isSome_of_follow {names : List String} (hplace : (files.root.at? place).isSome = true)
    (h : files.follow place names = .ok next) : (files.root.at? next).isSome = true := by
  induction names generalizing place with
  | nil =>
    obtain rfl := Except.ok.inj h
    exact hplace
  | cons name names ih =>
    obtain ⟨after, hstep, hfollow⟩ := exists_of_bind_eq_ok h
    exact ih (isSome_of_step hstep) hfollow

lemma isSome_of_start (h : files.start path = .ok place) :
    (files.root.at? place).isSome = true := by
  unfold start at h
  split_ifs at h with habsolute hhere
  · obtain rfl := Except.ok.inj h
    cases files.root <;> rfl
  · obtain rfl := Except.ok.inj h
    rwa [Node.at?, Option.isSome_map]

lemma node_of_locate {node : Node} (hplace : files.locate path = .ok place)
    (hnode : files.root.get? place = some node) : files.node path = .ok node := by
  simp only [Files.node, hplace, hnode, bind, Except.bind]
  rfl

lemma read_eq_ok_iff {content : List UInt8} : files.read path = .ok content ↔
    ∃ place, files.locate path = .ok place ∧ files.root.get? place = some (.file content) := by
  constructor
  · intro h
    obtain ⟨node, hnode, hcontent⟩ := exists_of_bind_eq_ok h
    obtain ⟨place, hplace, hget⟩ := exists_of_bind_eq_ok hnode
    refine ⟨place, hplace, ?_⟩
    split at hget
    · rename_i hsome
      obtain rfl := Except.ok.inj hget
      split at hcontent
      · obtain rfl := Except.ok.inj hcontent
        exact hsome
      · nomatch hcontent
    · nomatch hget
  · rintro ⟨place, hplace, hfile⟩
    unfold read
    rw [node_of_locate hplace hfile]
    rfl

end Steps

/-- What stays of a file system so that paths lead where they led: directories stay directories, and
nothing goes. -/
structure Passable (old new : Files) : Prop where
  here : new.here = old.here
  directory : ∀ place, old.root.at? place = some none → new.root.at? place = some none
  present : ∀ place, (old.root.at? place).isSome = true → (new.root.at? place).isSome = true

namespace Passable

variable {old new : Files} {place next : List String} {path name : String}

lemma step (h : Passable old new) (hstep : old.step place name = .ok next) :
    new.step place name = .ok next := by
  have hplace := directory_of_step hstep
  rw [step_of_directory hplace] at hstep
  rw [step_of_directory (h.directory place hplace)]
  split_ifs at hstep with hdot hdots hlong hentry
  · rwa [if_pos hdot]
  · rwa [if_neg hdot, if_pos hdots]
  · rwa [if_neg hdot, if_neg hdots, if_neg hlong, if_pos (h.present _ hentry)]

lemma follow (h : Passable old new) {names : List String}
    (hfollow : old.follow place names = .ok next) : new.follow place names = .ok next := by
  induction names generalizing place with
  | nil => exact hfollow
  | cons name names ih =>
    obtain ⟨after, hstep, hrest⟩ := exists_of_bind_eq_ok hfollow
    change (new.step place name >>= fun after => new.follow after names) = _
    rw [h.step hstep]
    exact ih hrest

lemma start (h : Passable old new) (hstart : old.start path = .ok place) :
    new.start path = .ok place := by
  unfold Files.start at hstart ⊢
  split_ifs at hstart with habsolute hhere
  · rwa [if_pos habsolute]
  · have hnew := h.present old.here (by rwa [Node.at?, Option.isSome_map])
    rw [Node.at?, Option.isSome_map, ← h.here] at hnew
    rwa [if_neg habsolute, if_pos hnew, h.here]

lemma locate (h : Passable old new) (hlocate : old.locate path = .ok place) :
    new.locate path = .ok place := by
  obtain ⟨_, hcheck, hlocate⟩ := exists_of_bind_eq_ok hlocate
  obtain ⟨first, hstart, hfollow⟩ := exists_of_bind_eq_ok hlocate
  unfold Files.locate
  rw [hcheck, h.start hstart]
  exact h.follow hfollow

end Passable

/-! ## Adding directories -/

/-- A file system to which something may have been added: what stood at a place stands there. -/
structure Grows (old new : Files) : Prop where
  here : new.here = old.here
  kept : ∀ place shown, old.root.at? place = some shown → new.root.at? place = some shown

namespace Grows

variable {first second third : Files}

lemma refl (files : Files) : Grows files files := ⟨rfl, fun _ _ h => h⟩

lemma trans (h₁ : Grows first second) (h₂ : Grows second third) : Grows first third :=
  ⟨h₂.here.trans h₁.here, fun place shown h => h₂.kept place shown (h₁.kept place shown h)⟩

lemma passable (h : Grows first second) : Passable first second where
  here := h.here
  directory place := h.kept place none
  present place hplace := by
    obtain ⟨shown, hshown⟩ := Option.isSome_iff_exists.mp hplace
    rw [h.kept place shown hshown]
    rfl

lemma file (h : Grows first second) {place : List String} {content : List UInt8}
    (hfile : first.root.get? place = some (.file content)) :
    second.root.get? place = some (.file content) :=
  Node.at?_eq_some_some.mp (h.kept place _ (Node.at?_eq_some_some.mpr hfile))

end Grows

/-- All names of a path but the last lead to a place. -/
structure Leads (files : Files) (path : String) (place : List String) (name : String) : Prop where
  checked : check path = .ok ()
  reached : ∃ start, files.start path = .ok start ∧
    files.follow start (Path.names path).dropLast = .ok place
  last : (Path.names path).getLast? = some name

/-- A path names an entry of a directory, which may be there or not. -/
structure Names (files : Files) (path : String) (place : List String) (name : String) : Prop
    extends Leads files path place name where
  directory : files.root.at? place = some none
  dot : name ≠ "."
  dots : name ≠ ".."
  short : ¬Path.nameLimit < name.utf8ByteSize

variable {files old new : Files} {place : List String} {path name : String}

lemma Leads.names_of_notFound (h : files.Leads path place name)
    (hstep : files.step place name = .error .notFound) :
    files.Names path place name ∧ files.root.at? (place ++ [name]) = none := by
  obtain ⟨start, hstart, hfollow⟩ := h.reached
  have hsome := isSome_of_follow (isSome_of_start hstart) hfollow
  have hplace := directory_of_step_notFound hsome hstep
  rw [step_of_directory hplace] at hstep
  split_ifs at hstep with hdot hdots hlong hentry
  · nomatch hstep
  · exact ⟨⟨h, hplace, hdot, hdots, hlong⟩, Option.not_isSome_iff_eq_none.mp hentry⟩

lemma Leads.names_of_found {found : List String} (h : files.Leads path place name)
    (hstep : files.step place name = .ok found) (hfile : files.root.at? found ≠ some none) :
    files.Names path place name ∧ found = place ++ [name] := by
  have hplace := directory_of_step hstep
  rw [step_of_directory hplace] at hstep
  split_ifs at hstep with hdot hdots hlong hentry
  · exact absurd (Except.ok.inj hstep ▸ hplace) hfile
  · exact absurd (Except.ok.inj hstep ▸ Node.at?_dropLast hplace) hfile
  · exact ⟨⟨h, hplace, hdot, hdots, hlong⟩, (Except.ok.inj hstep).symm⟩

lemma makeDirectory_cases (h : files.makeDirectory path = .ok new) :
    ∃ place name, files.Names path place name ∧ files.root.at? (place ++ [name]) = none ∧
      new = files.put (place ++ [name]) (.directory []) := by
  obtain ⟨_, hcheck, h⟩ := exists_of_bind_eq_ok h
  obtain ⟨start, hstart, h⟩ := exists_of_bind_eq_ok h
  obtain ⟨place, hfollow, h⟩ := exists_of_bind_eq_ok h
  cases hlast : (Path.names path).getLast? with
  | none => simp [hlast] at h
  | some name =>
    rw [hlast] at h
    dsimp only at h
    split at h
    · rename_i hstep
      have hleads : files.Leads path place name := ⟨hcheck, ⟨start, hstart, hfollow⟩, hlast⟩
      obtain ⟨hnames, habsent⟩ := hleads.names_of_notFound hstep
      exact ⟨place, name, hnames, habsent, (Except.ok.inj h).symm⟩
    · nomatch h
    · nomatch h

lemma grows_of_makeDirectory (h : files.makeDirectory path = .ok new) : Grows files new := by
  obtain ⟨place, name, _, habsent, rfl⟩ := makeDirectory_cases h
  refine ⟨rfl, fun other shown hother => ?_⟩
  apply Node.at?_put_of_ne _ _ hother
  · rw [habsent]
    nofun
  · rintro rfl
    rw [habsent] at hother
    nomatch hother

-- Also where it fails, what was added on the way stays.
lemma grows_makeAll (files : Files) (paths : List String) :
    Grows files (files.makeAll paths).2 := by
  induction paths with
  | nil => exact .refl files
  | cons path above ih =>
    rw [makeAll]
    split
    · rename_i hmake
      exact grows_of_makeDirectory hmake
    · split
      · rename_i habove
        rwa [habove] at ih
      · rename_i habove
        rw [habove] at ih
        split
        · rename_i hmake
          exact ih.trans (grows_of_makeDirectory hmake)
        · exact ih
    · exact .refl files

/-! ## Writing a file -/

/-- A content was stored at a place where no directory was, and all else that stood somewhere stands
there still. -/
structure Stores (target : List String) (content : List UInt8) (old new : Files) : Prop where
  here : new.here = old.here
  fits : old.root.at? target ≠ some none
  stored : new.root.at? target = some (some content)
  kept : ∀ place shown, place ≠ target → old.root.at? place = some shown →
    new.root.at? place = some shown

lemma Stores.passable {target : List String} {content : List UInt8}
    (h : Stores target content old new) : Passable old new where
  here := h.here
  directory place hplace := h.kept place none (fun heq => h.fits (heq ▸ hplace)) hplace
  present place hplace := by
    by_cases heq : place = target
    · rw [heq, h.stored]
      rfl
    · obtain ⟨shown, hshown⟩ := Option.isSome_iff_exists.mp hplace
      rw [h.kept place shown heq hshown]
      rfl

lemma Stores.file {target : List String} {content bytes : List UInt8}
    (h : Stores target bytes old new) (hne : place ≠ target)
    (hfile : old.root.get? place = some (.file content)) :
    new.root.get? place = some (.file content) :=
  Node.at?_eq_some_some.mp (h.kept place _ hne (Node.at?_eq_some_some.mpr hfile))

lemma Names.stores (h : files.Names path place name)
    (hfits : files.root.at? (place ++ [name]) ≠ some none) (content : List UInt8) :
    Stores (place ++ [name]) content files (files.put (place ++ [name]) (.file content)) := by
  obtain ⟨entries, hget⟩ := Node.at?_eq_some_none.mp h.directory
  refine ⟨rfl, hfits, ?_, fun other shown hne hother => Node.at?_put_of_ne hfits hne hother⟩
  exact Node.at?_eq_some_some.mpr (Node.get?_put_concat hget)

lemma Names.locate (h : files.Names path place name) (hslash : Path.endsInSlash path = false)
    (hpass : Passable files new) (hthere : (new.root.at? (place ++ [name])).isSome = true) :
    new.locate path = .ok (place ++ [name]) := by
  obtain ⟨start, hstart, hfollow⟩ := h.reached
  have hnames : Path.steps path = (Path.names path).dropLast ++ [name] := by
    rw [Path.steps, hslash, if_neg Bool.false_ne_true]
    exact (List.dropLast_append_getLast? name h.last).symm
  have hstep : new.step place name = .ok (place ++ [name]) := by
    rw [step_of_directory (hpass.directory place h.directory), if_neg h.dot, if_neg h.dots,
      if_neg h.short, if_pos hthere]
  have hall : new.follow start (Path.steps path) = .ok (place ++ [name]) := by
    rw [hnames, Files.follow, List.foldlM_append]
    change (new.follow start (Path.names path).dropLast >>=
      fun place => new.follow place [name]) = _
    rw [hpass.follow hfollow]
    change (new.step place name >>= fun next => new.follow next []) = _
    rw [hstep]
    rfl
  unfold Files.locate
  rw [h.checked, hpass.start hstart]
  exact hall

lemma write_cases {content : List UInt8} (h : files.write path content = .ok new) :
    ∃ place name, files.Names path place name ∧ files.root.at? (place ++ [name]) ≠ some none ∧
      Path.endsInSlash path = false ∧ new = files.put (place ++ [name]) (.file content) := by
  obtain ⟨_, hcheck, h⟩ := exists_of_bind_eq_ok h
  obtain ⟨start, hstart, h⟩ := exists_of_bind_eq_ok h
  obtain ⟨place, hfollow, h⟩ := exists_of_bind_eq_ok h
  cases hlast : (Path.names path).getLast? with
  | none => simp [hlast] at h
  | some name =>
    have hleads : files.Leads path place name := ⟨hcheck, ⟨start, hstart, hfollow⟩, hlast⟩
    rw [hlast] at h
    dsimp only at h
    cases hslash : Path.endsInSlash path with
    | true =>
      rw [hslash] at h
      split at h <;> nomatch h
    | false =>
      rw [hslash] at h
      cases hstep : files.step place name with
      | error cause =>
        rw [hstep] at h
        cases cause with
        | notFound =>
          obtain ⟨hnames, habsent⟩ := hleads.names_of_notFound hstep
          exact ⟨place, name, hnames, habsent ▸ nofun, rfl, (Except.ok.inj h).symm⟩
        | _ => nomatch h
      | ok found =>
        -- Only a file that is there already is replaced.
        rw [hstep] at h
        dsimp only at h
        rw [if_neg Bool.false_ne_true] at h
        split at h
        · nomatch h
        · rename_i hother
          have hfile : files.root.at? found ≠ some none := by
            intro hplace
            obtain ⟨entries, hget⟩ := Node.at?_eq_some_none.mp hplace
            exact hother entries hget
          obtain ⟨hnames, rfl⟩ := hleads.names_of_found hstep hfile
          exact ⟨place, name, hnames, hfile, rfl, (Except.ok.inj h).symm⟩

lemma stores_of_write {content : List UInt8} (h : files.write path content = .ok new) :
    ∃ target, Stores target content files new ∧ new.locate path = .ok target := by
  obtain ⟨place, name, hnames, hfits, hslash, rfl⟩ := write_cases h
  have hstores := hnames.stores hfits content
  refine ⟨place ++ [name], hstores, hnames.locate hslash hstores.passable ?_⟩
  rw [hstores.stored]
  rfl

end Files

end Fieldbus

import Fieldbus.Command.Run
import Fieldbus.Proofs.Assignments
import Fieldbus.Proofs.FieldWindows
import Fieldbus.Proofs.PrintedLines

/-!
# What the catalog command prints

As text every kind has a heading and one line for each field, which begins with the place of the
field's window in a frame; a blank line stands between two kinds. As a document the catalog is an
array of kinds, and the same place is a member of each field.
-/

namespace Fieldbus

lemma Slot.map_all {fields : List Field} {α : Type} (f : Nat → Field → α) :
    (Slot.all fields).map (fun slot => f slot.index slot.field) = fields.mapIdx f := by
  induction fields generalizing f with
  | nil => rfl
  | cons field fields ih =>
    rw [List.mapIdx_cons, ← ih, Slot.all, List.map_cons, List.map_map]
    rfl

namespace Kind

lemma placements_eq (kind : Kind) :
    kind.placements = (Slot.all kind.fields).map fun slot => ⟨slot.field, slot.start⟩ :=
  (Slot.map_all _).symm

/-! ## The listing -/

/-- The line of a field: where its window starts, its name filled up with blanks to a width, and its
type. -/
def row {kind : Kind} (width : Nat) (slot : Slot kind.fields) : String :=
  "  @" ++ Text.decimal slot.start ++
    String.ofList (List.replicate (3 - (Text.decimal slot.start).length) ' ') ++ " " ++
    slot.field.name ++ String.ofList (List.replicate (width - slot.field.name.length) ' ') ++
    "  " ++ slot.field.type.display

/-- The lines of a kind as text. -/
def listing (kind : Kind) : List String :=
  kind.heading :: (Slot.all kind.fields).map (row (Field.nameWidth kind.fields))

/-- The lines of a kind as a document. -/
def document (kind : Kind) : List String :=
  Json.block "\x7b" "\x7d" [
    Json.member "id" [Text.decimal kind.id.toNat],
    Json.member "name" ["\x22" ++ kind.name ++ "\x22"],
    Json.member "wire_len" [Text.decimal kind.wireLength],
    Json.member "fields" (Json.block "[" "]" ((Slot.all kind.fields).map fun slot =>
      Json.block "\x7b" "\x7d" [
        Json.member "name" ["\x22" ++ slot.field.name ++ "\x22"],
        Json.member "type" ["\x22" ++ slot.field.type.display ++ "\x22"],
        Json.member "offset" [Text.decimal slot.start],
        Json.member "width" [Text.decimal slot.field.type.width]]))]

/-! ## Text -/

lemma isPlain_row (kind : Kind) (width : Nat) (slot : Slot kind.fields) :
    (row width slot).toList.all Json.isPlain = true := by
  have hblanks (n : Nat) : (List.replicate n ' ').all Json.isPlain = true :=
    List.all_eq_true.mpr fun _ hc => List.eq_of_mem_replicate hc ▸ rfl
  have hname := kind.isPlain_fieldName slot.name_mem
  simp only [row, String.toList_append, String.toList_ofList, List.all_append, hblanks, hname,
    Json.isPlain_decimal, slot.field.type.isPlain_display, Bool.and_true]
  decide

lemma not_mem_listing (kind : Kind) : ∀ text ∈ kind.listing, '\n' ∉ text.toList := by
  refine List.forall_mem_cons.mpr ⟨Json.not_mem_of_isPlain kind.isPlain_heading, ?_⟩
  exact List.forall_mem_map.mpr fun slot _ => Json.not_mem_of_isPlain (kind.isPlain_row _ slot)

lemma exists_listing_eq (kind : Kind) :
    ∃ rows front, kind.listing = rows ++ [front ++ "]"] := by
  obtain ⟨slots, slot, hslots⟩ :=
    (List.eq_nil_or_concat (Slot.all kind.fields)).resolve_left kind.slots_ne_nil
  obtain ⟨front, hdisplay⟩ := slot.field.type.exists_display_eq
  rw [listing, hslots, List.concat_eq_append, List.map_append, List.map_singleton, row, hdisplay,
    ← String.append_assoc]
  exact ⟨kind.heading :: slots.map (row (Field.nameWidth kind.fields)), _, rfl⟩

end Kind

namespace Command

def ended (texts : List String) : String := String.join (texts.map (· ++ "\n"))

lemma kindText_eq (kind : Kind) : kindText kind = ended kind.listing := by
  have hrow (slot : Slot kind.fields) :
      placementLine (Field.nameWidth kind.fields) ⟨slot.field, slot.start⟩ =
        Kind.row (Field.nameWidth kind.fields) slot ++ "\n" := by
    simp only [placementLine, Kind.row, Text.pad_eq, String.append_assoc]
  simp only [kindText, Kind.placements_eq, ended, Kind.listing, List.map_cons, List.map_map,
    String.join_cons, Function.comp_def, hrow]

lemma ended_intercalate (blocks : List (List String)) :
    ended ([""].intercalate blocks) = "\n".intercalate (blocks.map ended) := by
  induction blocks with
  | nil => rfl
  | cons block blocks ih =>
    cases blocks with
    | nil => rw [List.intercalate_singleton, List.map_singleton, String.intercalate_singleton]
    | cons next blocks =>
      have happend (left right : List String) :
          ended (left ++ right) = ended left ++ ended right := by
        rw [ended, List.map_append, String.join_append, ended, ended]
      rw [List.intercalate_cons_cons, happend, happend, ih]
      exact String.intercalate_cons_cons.symm

section Blocks

variable {blocks : List (List String)}

lemma not_mem_intercalate (h : ∀ block ∈ blocks, ∀ text ∈ block, '\n' ∉ text.toList) :
    ∀ text ∈ [""].intercalate blocks, '\n' ∉ text.toList := by
  induction blocks with
  | nil => exact fun _ hmem => absurd hmem List.not_mem_nil
  | cons block blocks ih =>
    obtain ⟨hblock, hblocks⟩ := List.forall_mem_cons.mp h
    cases blocks with
    | nil => rwa [List.intercalate_singleton]
    | cons next blocks =>
      rw [List.intercalate_cons_cons]
      refine List.forall_mem_append.mpr ⟨List.forall_mem_append.mpr ⟨hblock, ?_⟩, ih hblocks⟩
      simp

lemma exists_intercalate_eq (hne : blocks ≠ [])
    (h : ∀ block ∈ blocks, ∃ rows front, block = rows ++ [front ++ "]"]) :
    ∃ rows front, [""].intercalate blocks = rows ++ [front ++ "]"] := by
  induction blocks with
  | nil => exact absurd rfl hne
  | cons block blocks ih =>
    obtain ⟨hblock, hblocks⟩ := List.forall_mem_cons.mp h
    cases blocks with
    | nil => rwa [List.intercalate_singleton]
    | cons next blocks =>
      obtain ⟨rows, front, heq⟩ := ih (by simp) hblocks
      refine ⟨block ++ [""] ++ rows, front, ?_⟩
      rw [List.intercalate_cons_cons, heq, ← List.append_assoc]

end Blocks

lemma lines_catalogText {kinds : List Kind} (hne : kinds ≠ []) :
    Text.lines (catalogText kinds) = [""].intercalate (kinds.map Kind.listing) := by
  have hbreaks := not_mem_intercalate (List.forall_mem_map.mpr fun kind (_ : kind ∈ kinds) =>
    kind.not_mem_listing)
  obtain ⟨rows, front, heq⟩ := exists_intercalate_eq (by simpa using hne)
    (List.forall_mem_map.mpr fun kind (_ : kind ∈ kinds) => kind.exists_listing_eq)
  have htext : ("\n".intercalate (kinds.map kindText)).toList =
      (rows ++ [front ++ "]"]).flatMap fun text => text.toList ++ ['\n'] := by
    have hkinds : kinds.map kindText = (kinds.map Kind.listing).map ended := by
      rw [List.map_map]
      exact List.map_congr_left fun kind _ => kindText_eq kind
    rw [hkinds, ← ended_intercalate, heq, ended, String.toList_join, List.flatMap_map]
    simp
  rw [heq] at hbreaks ⊢
  rw [catalogText, htext]
  -- The last line ends in a bracket, so that trimming takes the break after it and nothing else.
  exact Text.lines_trimEnd hbreaks (String.toList_append ..) (by decide)

/-! ## Documents -/

lemma lines_placementJson {kind : Kind} (slot : Slot kind.fields) :
    (placementJson ⟨slot.field, slot.start⟩).lines = Json.block "\x7b" "\x7d" [
      Json.member "name" ["\x22" ++ slot.field.name ++ "\x22"],
      Json.member "type" ["\x22" ++ slot.field.type.display ++ "\x22"],
      Json.member "offset" [Text.decimal slot.start],
      Json.member "width" [Text.decimal slot.field.type.width]] := by
  have hname := Json.quote_eq (kind.isPlain_fieldName slot.name_mem)
  have htype := Json.quote_eq slot.field.type.isPlain_display
  rw [placementJson, Json.lines_obj (by simp)]
  simp (disch := decide) only [List.map_cons, List.map_nil, Json.labelled_quote, Json.lines_int,
    Json.lines_str, hname, htype]

lemma lines_kindJson (kind : Kind) : (kindJson kind).lines = kind.document := by
  have hname := Json.quote_eq kind.isPlain_name
  have hfields : (Json.arr (kind.placements.map placementJson)).lines =
      Json.block "[" "]" ((Slot.all kind.fields).map fun slot =>
        (placementJson ⟨slot.field, slot.start⟩).lines) := by
    rw [Kind.placements_eq, Json.lines_arr (by simpa using kind.slots_ne_nil), List.map_map,
      List.map_map]
    rfl
  rw [kindJson, Json.lines_obj (by simp)]
  simp (disch := decide) only [List.map_cons, List.map_nil, Json.labelled_quote, Json.lines_int,
    Json.lines_str, hname, hfields, lines_placementJson, Kind.document]

lemma lines_catalogJson {kinds : List Kind} (hne : kinds ≠ []) :
    Text.lines (Json.arr (kinds.map kindJson)).pretty =
      Json.block "[" "]" (kinds.map Kind.document) := by
  rw [Json.lines_pretty, Json.lines_arr (by simpa using hne), List.map_map]
  exact congrArg _ (List.map_congr_left fun kind _ => lines_kindJson kind)

/-- The kinds that an operator asks the catalog for. -/
inductive Lists : Option String → List Kind → Prop where
  | all : Lists none Kind.all
  | one {raw : String} {kind : Kind} (h : Kind.parse raw = .ok kind) : Lists (some raw) [kind]

lemma run_catalog {raw : Option String} {kinds : List Kind} (h : Lists raw kinds)
    (context : Context) (files : Files) :
    ∃ output, ((catalog raw).run context files).result = .ok output ∧
      (context.settings.format = .text →
        Text.lines output = [""].intercalate (kinds.map Kind.listing)) ∧
      (context.settings.format = .json →
        Text.lines output = Json.block "[" "]" (kinds.map Kind.document)) := by
  have hne : kinds ≠ [] := by cases h <;> simp [Kind.all]
  cases hformat : context.settings.format with
  | text =>
    have hresult : ((catalog raw).run context files).result = .ok (catalogText kinds) := by
      cases h with
      | all =>
        simp only [run, runCatalog, hformat]
        rfl
      | one h =>
        simp only [run, runCatalog, h, hformat]
        rfl
    exact ⟨_, hresult, fun _ => lines_catalogText hne, fun hjson => absurd hjson (by decide)⟩
  | json =>
    have hresult : ((catalog raw).run context files).result =
        .ok (Json.arr (kinds.map kindJson)).pretty := by
      cases h with
      | all =>
        simp only [run, runCatalog, hformat]
        rfl
      | one h =>
        simp only [run, runCatalog, h, hformat]
        rfl
    exact ⟨_, hresult, fun htext => absurd htext (by decide), fun _ => lines_catalogJson hne⟩

end Command

end Fieldbus

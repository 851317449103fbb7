import Fieldbus.Proofs.Assignments

/-!
# The last assignment to a field counts

Whether an assignment can be taken depends on the kind of the message only, and what it stores
depends on its own text only. So a list of assignments fails with the fault of the first one that
the kind rejects. If the kind rejects none, every field holds what the last assignment to it says,
and the order between assignments to different fields makes no difference.
-/

namespace Fieldbus

/-- The faults of an assignment to a message of a kind: there is no such field, or its type does not
read the text. -/
inductive Kind.Rejects (kind : Kind) (assignment : Assignment) : FieldError → Prop
  | unknownField (h : assignment.field ∉ kind.fields.map Field.name) :
      kind.Rejects assignment (.unknownField kind.name assignment.field)
  | invalidValue (slot : Slot kind.fields) (reason : String)
      (hname : slot.field.name = assignment.field)
      (hparse : slot.field.type.parse assignment.value =
        .error (.invalidValue slot.field.type.name assignment.value reason)) :
      kind.Rejects assignment (.invalidValue slot.field.type.name assignment.value reason)

/-- The fault of the first assignment that a kind rejects. -/
def Kind.FirstRejects (kind : Kind) (assignments : List Assignment) (fault : FieldError) : Prop :=
  ∃ before bad after, assignments = before ++ bad :: after ∧
    (∀ assignment ∈ before, ∀ other, ¬kind.Rejects assignment other) ∧ kind.Rejects bad fault

namespace Assignment

def allTo (name : String) (assignments : List Assignment) : List Assignment :=
  assignments.filter fun assignment => assignment.field = name

def lastTo (name : String) (assignments : List Assignment) : Option Assignment :=
  (allTo name assignments).getLast?

lemma lastTo_cons (name : String) (assignment : Assignment) (assignments : List Assignment) :
    lastTo name (assignment :: assignments) =
      (lastTo name assignments).or (lastTo name [assignment]) := by
  unfold lastTo allTo
  by_cases h : assignment.field = name
  · cases hlast : (assignments.filter fun a => a.field = name).getLast? with
    | none => simp [h, List.getLast?_cons, hlast]
    | some last => simp [h, List.getLast?_cons, hlast]
  · simp [h]

end Assignment

def Field.ofText? (field : Field) (text : String) : Option field.type.Cell :=
  match field.type.parse text with
  | .error _ => none
  | .ok value => (field.type.accept field.name value).toOption.map field.type.store

namespace Slot

variable {fields : List Field}

/-- What a field that held a cell holds after assignments: what the last one to it says. -/
def assigned? (slot : Slot fields) (held : slot.field.type.Cell) (assignments : List Assignment) :
    Option slot.field.type.Cell :=
  match Assignment.lastTo slot.field.name assignments with
  | none => some held
  | some last => slot.field.ofText? last.value

lemma assigned?_cons {slot : Slot fields} {held cell : slot.field.type.Cell}
    {assignment : Assignment} (h : slot.assigned? held [assignment] = some cell)
    (assignments : List Assignment) :
    slot.assigned? held (assignment :: assignments) = slot.assigned? cell assignments := by
  unfold assigned? at h ⊢
  rw [Assignment.lastTo_cons]
  cases Assignment.lastTo slot.field.name assignments with
  | none => simpa using h
  | some last => rfl

end Slot

lemma Record.get_zero {fields : List Field} (slot : Slot fields) :
    (zero fields).get slot = slot.field.type.zero := by
  induction slot with
  | here => rfl
  | there slot ih => exact ih

lemma FieldType.exists_reason_of_parse {type : FieldType} {raw : String} {fault : FieldError}
    (h : type.parse raw = .error fault) : ∃ reason, fault = .invalidValue type.name raw reason := by
  unfold parse at h
  cases type with
  | chars capacity => nomatch h
  | _ =>
    dsimp only at h
    split at h
    · nomatch h
    · exact ⟨_, (Except.error.inj h).symm⟩

namespace Message

variable {message : Message} {assignment : Assignment} {assignments : List Assignment}
  {fault : FieldError}

lemma apply_eq_error_iff :
    message.apply assignment = .error fault ↔ message.kind.Rejects assignment fault := by
  constructor
  · intro h
    cases hslot : Slot.find? assignment.field message.kind.fields with
    | none =>
      simp only [apply, hslot] at h
      obtain rfl := Except.error.inj h
      exact .unknownField (Slot.find?_eq_none_iff.mp hslot)
    | some slot =>
      cases hparse : slot.field.type.parse assignment.value with
      | error found =>
        simp only [apply, hslot, hparse] at h
        obtain rfl := Except.error.inj h
        obtain ⟨reason, rfl⟩ := FieldType.exists_reason_of_parse hparse
        exact .invalidValue slot reason (Slot.name_of_find? hslot) hparse
      | ok requested =>
        obtain ⟨input, haccept⟩ := FieldType.exists_accept (FieldType.shape_mem_of_parse hparse)
        simp [apply_eq_ok hslot hparse (haccept _)] at h
  · intro h
    cases h with
    | unknownField h =>
      simp only [apply, Slot.find?_eq_none_iff.mpr h]
    | invalidValue slot reason hname hparse =>
      have hslot : Slot.find? assignment.field message.kind.fields = some slot := by
        rw [← hname]
        exact Slot.find?_name message.kind.nodup_names slot
      simp only [apply, hslot, hparse]
      rfl

lemma not_rejects_of_apply {step : Message × Option Event}
    (h : message.apply assignment = .ok step) :
    ∀ fault, ¬message.kind.Rejects assignment fault := by
  intro fault hfault
  rw [apply_eq_error_iff.mpr hfault] at h
  nomatch h

lemma assigned?_of_apply {next : Message} {report : Option Event}
    (h : message.apply assignment = .ok (next, report)) :
    ∃ record : Record message.kind.fields, next = ⟨message.kind, record⟩ ∧
      ∀ slot, slot.assigned? (message.record.get slot) [assignment] = some (record.get slot) := by
  obtain ⟨slot, requested, input, hslot, hparse, haccept, rfl, -⟩ := apply_cases h
  refine ⟨_, rfl, ?_⟩
  intro other
  have hname := Slot.name_of_find? hslot
  by_cases hother : other = slot
  · subst hother
    have hlast : Assignment.lastTo other.field.name [assignment] = some assignment := by
      simp [Assignment.lastTo, Assignment.allTo, hname]
    simp [Slot.assigned?, hlast, Field.ofText?, hparse, haccept, Except.toOption, Record.put,
      Record.get_set]
  · -- Names are distinct, so the assignment is to no other slot.
    have hne : assignment.field ≠ other.field.name := by
      intro heq
      rw [heq, Slot.find?_name message.kind.nodup_names] at hslot
      exact hother (Option.some.inj hslot)
    have hlast : Assignment.lastTo other.field.name [assignment] = none := by
      simp [Assignment.lastTo, Assignment.allTo, hne]
    simp [Slot.assigned?, hlast, Record.put, Record.get_set_of_ne _ hother]

lemma applyAll_eq_error_iff :
    (message.applyAll assignments).1 = .error fault ↔
      message.kind.FirstRejects assignments fault := by
  induction assignments generalizing message with
  | nil => simp [applyAll, Kind.FirstRejects]
  | cons first rest ih =>
    rw [applyAll]
    cases happly : message.apply first with
    | error found =>
      have hfirst := apply_eq_error_iff.mp happly
      constructor
      · intro h
        obtain rfl := Except.error.inj h
        exact ⟨[], first, rest, rfl, by simp, hfirst⟩
      · rintro ⟨before, bad, after, heq, hbefore, hbad⟩
        cases before with
        | nil =>
          obtain ⟨rfl, rfl⟩ := List.cons.inj heq
          have hsame := (apply_eq_error_iff.mpr hbad).symm.trans happly
          obtain rfl := Except.error.inj hsame
          rfl
        | cons head before =>
          obtain ⟨rfl, -⟩ := List.cons.inj heq
          exact absurd hfirst (hbefore first List.mem_cons_self found)
    | ok step =>
      obtain ⟨next, report⟩ := step
      obtain ⟨record, rfl, -⟩ := assigned?_of_apply happly
      have hfirst := not_rejects_of_apply happly
      -- The step keeps the kind, so what comes next is rejected for the same reasons as before it.
      refine Iff.trans ih ?_
      constructor
      · rintro ⟨before, bad, after, rfl, hbefore, hbad⟩
        exact ⟨first :: before, bad, after, rfl, List.forall_mem_cons.mpr ⟨hfirst, hbefore⟩, hbad⟩
      · rintro ⟨before, bad, after, heq, hbefore, hbad⟩
        cases before with
        | nil =>
          obtain ⟨rfl, rfl⟩ := List.cons.inj heq
          exact absurd hbad (hfirst fault)
        | cons head before =>
          obtain ⟨rfl, rfl⟩ := List.cons.inj heq
          exact ⟨before, bad, after, rfl, (List.forall_mem_cons.mp hbefore).2, hbad⟩

/-- A run that succeeds has rejected nothing, and leaves in the fields what it was told last. -/
lemma assigned?_of_applyAll {final : Message} (h : (message.applyAll assignments).1 = .ok final) :
    (∀ assignment ∈ assignments, ∀ fault, ¬message.kind.Rejects assignment fault) ∧
      ∃ record : Record message.kind.fields, final = ⟨message.kind, record⟩ ∧
        ∀ slot, slot.assigned? (message.record.get slot) assignments = some (record.get slot) := by
  induction assignments generalizing message with
  | nil =>
    obtain rfl := Except.ok.inj h
    exact ⟨by simp, message.record, rfl, fun slot => rfl⟩
  | cons first rest ih =>
    rw [applyAll] at h
    cases happly : message.apply first with
    | error found => simp [happly] at h
    | ok step =>
      obtain ⟨next, report⟩ := step
      rw [happly] at h
      obtain ⟨record, rfl, hstep⟩ := assigned?_of_apply happly
      obtain ⟨hrest, last, rfl, hlast⟩ := ih h
      refine ⟨List.forall_mem_cons.mpr ⟨not_rejects_of_apply happly, hrest⟩, last, rfl, ?_⟩
      intro slot
      rw [Slot.assigned?_cons (hstep slot)]
      exact hlast slot

variable {kind : Kind}

lemma assigned?_of_build (h : (build kind assignments).1 = .ok message) :
    (∀ assignment ∈ assignments, ∀ fault, ¬kind.Rejects assignment fault) ∧
      ∃ record : Record kind.fields, message = ⟨kind, record⟩ ∧
        ∀ slot, slot.assigned? slot.field.type.zero assignments = some (record.get slot) := by
  obtain ⟨htaken, record, hmessage, hrecord⟩ := assigned?_of_applyAll h
  refine ⟨htaken, record, hmessage, fun (slot : Slot kind.fields) => ?_⟩
  have hslot := hrecord slot
  change slot.assigned? ((Record.zero kind.fields).get slot) assignments = _ at hslot
  rwa [Record.get_zero] at hslot

lemma exists_build_of_not_rejects
    (h : ∀ assignment ∈ assignments, ∀ fault, ¬kind.Rejects assignment fault) :
    ∃ message, (build kind assignments).1 = .ok message := by
  cases hbuild : (build kind assignments).1 with
  | ok message => exact ⟨message, rfl⟩
  | error fault =>
    obtain ⟨before, bad, after, rfl, -, hbad⟩ := applyAll_eq_error_iff.mp hbuild
    exact absurd hbad (h bad (by simp) fault)

lemma build_eq_of_lastTo {others : List Assignment}
    (h : (build kind assignments).1 = .ok message) (hmem : ∀ a ∈ others, a ∈ assignments)
    (hlast : ∀ name, Assignment.lastTo name others = Assignment.lastTo name assignments) :
    (build kind others).1 = .ok message := by
  obtain ⟨htaken, record, rfl, hrecord⟩ := assigned?_of_build h
  obtain ⟨built, hbuilt⟩ := exists_build_of_not_rejects fun a ha => htaken a (hmem a ha)
  obtain ⟨-, record', rfl, hrecord'⟩ := assigned?_of_build hbuilt
  have hsame : record' = record := by
    apply Record.ext_get
    intro slot
    have hslot := hrecord' slot
    rw [Slot.assigned?, hlast] at hslot
    exact Option.some.inj (hslot.symm.trans (hrecord slot))
  rw [hbuilt, hsame]

/-- Building a message fails exactly if its kind rejects an assignment, and then with the fault of
the first such assignment. Otherwise every field holds what the last assignment to it says, or its
default if there is none; hence earlier assignments to a field can be dropped, and assignments can
be moved as long as those to one field keep their order. -/
theorem build_last_assignment_counts (kind : Kind) (assignments : List Assignment) :
    ((∃ fault, (build kind assignments).1 = .error fault) ↔
      ∃ assignment ∈ assignments, ∃ fault, kind.Rejects assignment fault) ∧
    (∀ fault, (build kind assignments).1 = .error fault ↔ kind.FirstRejects assignments fault) ∧
    ∀ message, (build kind assignments).1 = .ok message →
      (∃ record : Record kind.fields, message = ⟨kind, record⟩ ∧
        ∀ slot, slot.assigned? slot.field.type.zero assignments = some (record.get slot)) ∧
      (∀ others, others.Sublist assignments →
        (∀ name, Assignment.lastTo name others = Assignment.lastTo name assignments) →
        (build kind others).1 = .ok message) ∧
      ∀ others,
        (∀ name, Assignment.allTo name others = Assignment.allTo name assignments) →
        (build kind others).1 = .ok message := by
  refine ⟨⟨?_, ?_⟩, fun fault => applyAll_eq_error_iff, ?_⟩
  · rintro ⟨fault, h⟩
    obtain ⟨before, bad, after, rfl, -, hbad⟩ := applyAll_eq_error_iff.mp h
    exact ⟨bad, by simp, fault, hbad⟩
  · rintro ⟨assignment, hmem, fault, hfault⟩
    cases hbuild : (build kind assignments).1 with
    | error found => exact ⟨found, rfl⟩
    | ok message => exact absurd hfault ((assigned?_of_build hbuild).1 assignment hmem fault)
  · intro message h
    refine ⟨(assigned?_of_build h).2, ?_, ?_⟩
    · intro others hsub hlast
      exact build_eq_of_lastTo h (fun a ha => hsub.subset ha) hlast
    · intro others hall
      apply build_eq_of_lastTo h
      · intro a ha
        have hto : a ∈ Assignment.allTo a.field others := by simp [Assignment.allTo, ha]
        rw [hall] at hto
        exact List.mem_of_mem_filter hto
      · intro name
        rw [Assignment.lastTo, hall, Assignment.lastTo]

/-- A name and a number are given twice. The first ones are dropped, or all are sorted by field. -/
theorem build_last_assignment_counts_twice :
    let given : List Assignment :=
      [⟨"name", "bonjour"⟩, ⟨"entier", "70000"⟩, ⟨"name", "ab"⟩, ⟨"entier", " 7 "⟩]
    let dropped : List Assignment := [⟨"name", "ab"⟩, ⟨"entier", " 7 "⟩]
    let sorted : List Assignment :=
      [⟨"entier", "70000"⟩, ⟨"entier", " 7 "⟩, ⟨"name", "bonjour"⟩, ⟨"name", "ab"⟩]
    (build .upPlop given).1.toOption.map body =
        some [2, 0, 0, 0, 0, 7, 0, 97, 98, 0, 0, 0, 0, 0, 0, 0, 0, 0, 0] ∧
      ∃ message, (build .upPlop given).1 = .ok message ∧
        (build .upPlop dropped).1 = .ok message ∧ (build .upPlop sorted).1 = .ok message := by
  intro given dropped sorted
  have hlast : ∀ name, Assignment.lastTo name dropped = Assignment.lastTo name given := by
    intro name
    by_cases hname : "name" = name
    · subst hname
      rfl
    by_cases hentier : "entier" = name
    · subst hentier
      rfl
    simp [Assignment.lastTo, Assignment.allTo, dropped, given, hname, hentier]
  have hall : ∀ name, Assignment.allTo name sorted = Assignment.allTo name given := by
    intro name
    by_cases hname : "name" = name
    · subst hname
      rfl
    by_cases hentier : "entier" = name
    · subst hentier
      rfl
    simp [Assignment.allTo, sorted, given, hname, hentier]
  refine ⟨by decide, ?_⟩
  cases hbuild : (build .upPlop given).1 with
  | error fault =>
    have hok : (build .upPlop given).1.isOk = true := by decide
    simp [hbuild, Except.isOk, Except.toBool] at hok
  | ok message =>
    obtain ⟨-, hdropped, hsorted⟩ := (build_last_assignment_counts _ _).2.2 message hbuild
    exact ⟨message, rfl, hdropped dropped (by decide) hlast, hsorted sorted hall⟩

end Message

end Fieldbus

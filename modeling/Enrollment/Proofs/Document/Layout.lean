import Enrollment.Document.Codec
import Enrollment.Proofs.Instant.Text
/-!
# Records read back

A record that is written by its description reads back. A description is made field by field, and
so is the proof: `Reads` says of a description of the first fields that the value made from what is
written of a record is the right one, and each field keeps it (`Reads.slot`).

Results:
 1. `checkMembers_passes`: which members are without fault, in any order and with unknown ones among them.
 2. `Reads.required`, `Reads.defaulted`, `Reads.elided`: one field more, of each kind.
 3. `Reads.faithful`: a description that reads its record back makes a faithful codec.
-/

namespace Enrollment.Document

variable {α β ρ : Type}

open Text (toDecimal)

namespace Codec

theorem faithful_instant (t : Instant) : instant.Faithful t := by
  simp only [Faithful, instant, Value.tree, Instant.parse?_text]

theorem faithful_named {name : α → String} {all : List α} {a : α} (hmem : a ∈ all)
    (hname : ∀ b ∈ all, name b = name a → b = a) : (named name all).Faithful a := by
  have hfound : all.find? (fun b => name b == name a) = some a := by
    cases h : all.find? (fun b => name b == name a) with
    | none =>
      have := List.find?_eq_none.1 h a hmem
      simp at this
    | some b =>
      have hb := List.find?_some h
      rw [beq_iff_eq] at hb
      rw [hname b (List.mem_of_find?_eq_some h) hb]
  simp only [Faithful, named, Value.tree, byName, hfound]

end Codec

theorem memberTrees_eq_map (digits : Nat → List Char) (members : List (String × Value)) :
    Value.memberTrees digits members = members.map fun m => (some m.1, m.2.tree digits) := by
  induction members with
  | nil => rfl
  | cons m rest ih => rw [Value.memberTrees, ih, List.map_cons]

namespace Layout

/-! ## Members that pass -/

/-- No two members have one name, if it is the name of a field. -/
def Apart (fields : List Field) (m m' : Option String × Tree) : Prop :=
  ∀ field ∈ fields, m.1 = some field.name → m'.1 ≠ some field.name

theorem Apart.symm {fields : List Field} {m m' : Option String × Tree} (h : Apart fields m m') :
    Apart fields m' m :=
  fun field hfield hm' hm => h field hfield hm hm'

/-- A member is a whole one that no field knows, or belongs to a field and has no fault. -/
def Passes (fields : List Field) (m : Option String × Tree) : Prop :=
  ∃ key, m.1 = some key ∧
    ((fields.find? (fun f => f.name == key) = none ∧ m.2.isWhole = true) ∨
      ∃ field, fields.find? (fun f => f.name == key) = some field ∧ field.check .json m.2 = .ok ())

/-- Members that pass are without fault, if no two have the name of a field. -/
theorem checkMembers_passes {fields : List Field} {members : List (Option String × Tree)}
    (hpasses : ∀ m ∈ members, Passes fields m) (hapart : members.Pairwise (Apart fields))
    (before : List String)
    (hbefore : ∀ m ∈ members, ∀ field ∈ fields, m.1 = some field.name → field.name ∉ before) :
    checkMembers fields .json before members = .ok () := by
  induction members generalizing before with
  | nil => rfl
  | cons m rest ih =>
    obtain ⟨key, t⟩ := m
    obtain ⟨hfirst, hrest⟩ := List.pairwise_cons.1 hapart
    obtain ⟨key, rfl, hcase⟩ := hpasses _ List.mem_cons_self
    have hlater := fun m hm => hpasses m (List.mem_cons_of_mem _ hm)
    rcases hcase with ⟨hunknown, hwhole⟩ | ⟨field, hfield, hcheck⟩
    · simp only [checkMembers, hunknown]
      rw [if_pos hwhole]
      exact ih hlater hrest before fun m hm => hbefore m (List.mem_cons_of_mem _ hm)
    · have hmem := List.mem_of_find?_eq_some hfield
      obtain rfl : field.name = key := by simpa using List.find?_some hfield
      have hnew : field.name ∉ before := hbefore _ List.mem_cons_self field hmem rfl
      simp only [checkMembers, hfield, if_neg hnew, hcheck, Codec.ok_bind]
      refine ih hlater hrest _ ?_
      intro m hm other hother hname hbehind
      rcases List.mem_cons.1 hbehind with heq | hbehind
      · exact hfirst m hm field hmem rfl (by rw [hname, heq])
      · exact hbefore m (List.mem_cons_of_mem _ hm) other hother hname hbehind

/-- Members of known fields without faults pass, if none of them is there twice. -/
theorem checkMembers_written {fields : List Field} {members : List (String × Value)}
    (hknown : ∀ m ∈ members, ∃ field, fields.find? (fun f => f.name == m.1) = some field ∧
      field.check .json (m.2.tree toDecimal) = .ok ())
    (honce : (members.map (·.1)).Nodup) :
    checkMembers fields .json [] (Value.memberTrees toDecimal members) = .ok () := by
  rw [memberTrees_eq_map]
  apply checkMembers_passes
  · intro m hm
    obtain ⟨m, hmem, rfl⟩ := List.mem_map.1 hm
    exact ⟨m.1, rfl, .inr (hknown m hmem)⟩
  · rw [List.pairwise_map]
    refine (List.pairwise_map.1 honce).imp ?_
    intro m m' hne field _ hm hm'
    exact hne (Option.some.inj (hm.trans hm'.symm))
  · exact fun _ _ _ _ _ => List.not_mem_nil

/-! ## Field by field -/

/-- What is written under a name, as a reader sees it. -/
def written? (members : List (String × Value)) (name : String) : Option Tree :=
  (members.find? fun m => m.1 == name).map fun m => m.2.tree toDecimal

theorem find?_membersOf (members : List (String × Value)) (name : String) :
    (membersOf (Value.memberTrees toDecimal members)).find? name = written? members name := by
  induction members with
  | nil => rfl
  | cons m rest ih =>
    obtain ⟨key, v⟩ := m
    by_cases h : key = name
    · subst h
      simp [membersOf, written?, Value.memberTrees]
    · have hkey : (key == name) = false := beq_false_of_ne h
      have hsome : (some key == some name) = false := by
        rw [beq_eq_false_iff_ne]
        intro heq
        exact h (Option.some.inj heq)
      simp only [membersOf, written?] at ih
      simp only [membersOf, written?, Value.memberTrees, List.find?_cons, hkey, hsome]
      exact ih

/-- A description of the first fields of a record, as far as it has come: what is written of the
record belongs to the fields, no field twice, and gives the right value. -/
structure Reads (l : Layout ρ α) (r : ρ) (a : α) : Prop where
  known : ∀ m ∈ l.write r, ∃ field, l.fields.find? (fun f => f.name == m.1) = some field ∧
    field.check .json (m.2.tree toDecimal) = .ok ()
  once : ((l.write r).map (·.1)).Nodup
  value : ∀ members : Members,
    (∀ field ∈ l.fields, members.find? field.name = written? (l.write r) field.name) →
    l.read .json members = .ok a

theorem Reads.make (a : α) (r : ρ) : (Layout.make a : Layout ρ α).Reads r a where
  known m hm := by cases hm
  once := List.nodup_nil
  value _ _ := rfl

/-- Whatever is written has the name of a field. -/
theorem Reads.name_mem {l : Layout ρ α} {r : ρ} {a : α} (h : l.Reads r a) {m : String × Value}
    (hm : m ∈ l.write r) : m.1 ∈ l.fields.map (·.name) := by
  obtain ⟨field, hfield, -⟩ := h.known m hm
  have hname := List.find?_some hfield
  rw [beq_iff_eq] at hname
  rw [← hname]
  exact List.mem_map_of_mem (List.mem_of_find?_eq_some hfield)

theorem Reads.written?_eq_none {l : Layout ρ α} {r : ρ} {a : α} (h : l.Reads r a) {name : String}
    (hname : name ∉ l.fields.map (·.name)) :
    (l.write r).find? (fun m => m.1 == name) = none := by
  rw [List.find?_eq_none]
  intro m hm
  rw [beq_iff_eq]
  rintro rfl
  exact hname (h.name_mem hm)

section

variable {l : Layout ρ (α → β)} {r : ρ} {f : α → β} {name : String} {absent : Option α}
  {c : Codec α} {written : ρ → Option α}

theorem find?_slot_of_name {key : String} {field : Field}
    (h : l.fields.find? (fun field => field.name == key) = some field) :
    (l.slot name absent c written).fields.find? (fun field => field.name == key) = some field := by
  rw [slot, List.find?_append, h]
  rfl

theorem find?_slot_new (hname : name ∉ l.fields.map (·.name)) :
    (l.slot name absent c written).fields.find? (fun field => field.name == name) =
      some ⟨name, fun format t => (c.decode format t).map fun _ => ()⟩ := by
  have hfields : l.fields.find? (fun field => field.name == name) = none := by
    rw [List.find?_eq_none]
    intro field hfield
    rw [beq_iff_eq]
    rintro rfl
    exact hname (List.mem_map_of_mem hfield)
  rw [slot, List.find?_append, hfields]
  simp

/-- A new member, if there is one, is found under its name alone. -/
theorem written?_slot_of_mem (hname : name ∉ l.fields.map (·.name)) {field : Field}
    (hfield : field ∈ l.fields) :
    written? ((l.slot name absent c written).write r) field.name =
      written? (l.write r) field.name := by
  have hne : (name == field.name) = false := by
    rw [beq_eq_false_iff_ne]
    rintro rfl
    exact hname (List.mem_map_of_mem hfield)
  simp only [slot, written?, List.find?_append]
  cases written r with
  | none => simp
  | some b => simp [hne]

theorem written?_slot_new (h : l.Reads r f) (hname : name ∉ l.fields.map (·.name)) :
    written? ((l.slot name absent c written).write r) name =
      (written r).map fun a => (c.encode a).tree toDecimal := by
  simp only [slot, written?, List.find?_append, h.written?_eq_none hname, Option.none_or]
  cases written r with
  | none => rfl
  | some a => simp

/-- One field more under a new name: it is written and reads back, or it is left out and absent. -/
theorem Reads.slot (h : l.Reads r f) {a : α} (hname : name ∉ l.fields.map (·.name))
    (ha : written r = some a ∧ c.Faithful a ∨ written r = none ∧ absent = some a) :
    (l.slot name absent c written).Reads r (f a) := by
  constructor
  · intro m hm
    rcases List.mem_append.1 hm with hm | hm
    · obtain ⟨field, hfield, hcheck⟩ := h.known m hm
      exact ⟨field, find?_slot_of_name hfield, hcheck⟩
    · rcases ha with ⟨hwritten, hfaithful⟩ | ⟨hwritten, -⟩
      · rw [hwritten, List.mem_singleton] at hm
        subst hm
        refine ⟨_, find?_slot_new hname, ?_⟩
        show ((c.decode .json ((c.encode a).tree toDecimal)).map fun _ => ()) = .ok ()
        rw [show c.decode .json ((c.encode a).tree toDecimal) = .ok a from hfaithful]
        rfl
      · rw [hwritten] at hm
        cases hm
  -- The name is new, so no member is there twice.
  · simp only [Layout.slot, List.map_append]
    rw [List.nodup_append]
    refine ⟨h.once, ?_, ?_⟩
    · cases written r with
      | none => exact List.nodup_nil
      | some b => simp
    · intro key hkey other hother
      obtain ⟨m, hm, rfl⟩ := List.mem_map.1 hkey
      cases hwritten : written r with
      | none =>
        rw [hwritten] at hother
        cases hother
      | some b =>
        rw [hwritten, List.map_singleton, List.mem_singleton] at hother
        rintro rfl
        have hmem := h.name_mem hm
        rw [hother] at hmem
        exact hname hmem
  -- The fields in front find what they found before, and the new one finds its own member.
  · intro members hmembers
    have hf : l.read .json members = .ok f := by
      apply h.value
      intro field hfield
      rw [hmembers field (List.mem_append_left _ hfield), written?_slot_of_mem hname hfield]
    have hfind := hmembers _ (List.mem_append_right _ (List.mem_singleton_self _))
    rw [written?_slot_new h hname] at hfind
    simp only [Layout.slot, hf, Codec.ok_bind]
    rcases ha with ⟨hwritten, hfaithful⟩ | ⟨hwritten, habsent⟩
    · rw [hwritten, Option.map_some] at hfind
      rw [hfind]
      show (c.decode .json ((c.encode a).tree toDecimal) >>= fun a => .ok (f a)) = .ok (f a)
      rw [show c.decode .json ((c.encode a).tree toDecimal) = .ok a from hfaithful, Codec.ok_bind]
    · rw [hwritten, Option.map_none] at hfind
      rw [hfind, habsent]

end

theorem Reads.required {l : Layout ρ (α → β)} {r : ρ} {f : α → β} (h : l.Reads r f)
    (name : String) {c : Codec α} {get : ρ → α} (hname : name ∉ l.fields.map (·.name))
    (ha : c.Faithful (get r)) : (l.required name c get).Reads r (f (get r)) :=
  h.slot hname (.inl ⟨rfl, ha⟩)

theorem Reads.defaulted {l : Layout ρ (α → β)} {r : ρ} {f : α → β} (h : l.Reads r f)
    (name : String) {c : Codec α} {absent : α} {get : ρ → α}
    (hname : name ∉ l.fields.map (·.name)) (ha : c.Faithful (get r)) :
    (l.defaulted name c absent get).Reads r (f (get r)) :=
  h.slot hname (.inl ⟨rfl, ha⟩)

theorem Reads.elided {l : Layout ρ (Option α → β)} {r : ρ} {f : Option α → β} (h : l.Reads r f)
    (name : String) {c : Codec α} {get : ρ → Option α} (hname : name ∉ l.fields.map (·.name))
    (ha : ∀ a, get r = some a → c.Faithful a ∧ c.encode a ≠ .null) :
    (l.elided name c get).Reads r (f (get r)) := by
  apply h.slot hname
  cases hget : get r with
  | none => exact .inr ⟨rfl, rfl⟩
  | some a =>
    obtain ⟨hfaithful, hnull⟩ := ha a hget
    exact .inl ⟨rfl, Codec.faithful_optional_some hfaithful hnull⟩

/-- A record that its description reads back is read back by the codec. -/
theorem Reads.faithful {l : Layout ρ ρ} {r : ρ} (h : l.Reads r r) : l.codec.Faithful r := by
  have hcheck := checkMembers_written h.known h.once
  have hvalue := h.value (membersOf (Value.memberTrees toDecimal (l.write r))) fun field _ =>
    find?_membersOf (l.write r) field.name
  simp only [Codec.Faithful, codec, Value.tree, hcheck, Codec.ok_bind, Ending.check, hvalue]

end Layout

end Enrollment.Document

import Enrollment.Proofs.Document.Layout
/-!
# Records of which something is left out

A record may be written with only some of its members, in any order, and with members between them that its
description does not know. Then the members that are there give their fields, and the other fields have what
stands for them when they are absent. `Completes` says so of a description of the first fields, and each
field keeps it.

Results:
 1. `Completes.required`, `Completes.defaulted`, `Completes.elided`: one field more, of each kind.
 2. `Completes.decode`: what a record with some of its members is read as.
-/

namespace Enrollment.Document

variable {α β ρ : Type}

/-! ## Some of the members -/

/-- The members of a record, as a reader sees them. -/
def seen (members : List (String × Tree)) : List (Option String × Tree) :=
  members.map fun m => (some m.1, m.2)

/-- A record with those of some members whose names are kept, and with any whole members of other names, in
any order. -/
def Keeps (entries : List (String × Tree)) (keep : String → Bool) (t : Tree) : Prop :=
  ∃ extra members, (∀ m ∈ extra, m.1 ∉ entries.map (·.1) ∧ m.2.isWhole = true) ∧
    members.Perm (seen (entries.filter (fun m => keep m.1) ++ extra)) ∧ t = .record members .closed

namespace Layout

/-- A member that passes as the only one of its name is the one that is found. -/
theorem find?_membersOf_of_mem {fields : List Field} {members : List (Option String × Tree)}
    (hapart : members.Pairwise (Apart fields)) {field : Field} (hfield : field ∈ fields) {t : Tree}
    (hmem : (some field.name, t) ∈ members) : (membersOf members).find? field.name = some t := by
  induction members with
  | nil => cases hmem
  | cons m rest ih =>
    obtain ⟨hfirst, hrest⟩ := List.pairwise_cons.1 hapart
    rcases List.mem_cons.1 hmem with rfl | hmem
    · simp [membersOf]
    · have hne : (m.1 == some field.name) = false := by
        rw [beq_eq_false_iff_ne]
        intro hname
        exact hfirst _ hmem field hfield hname rfl
      have hfound := ih hrest hmem
      simp only [membersOf, List.find?_cons, hne] at hfound ⊢
      exact hfound

theorem find?_membersOf_of_not_mem {members : List (Option String × Tree)} {name : String}
    (h : ∀ m ∈ members, m.1 ≠ some name) : (membersOf members).find? name = none := by
  simp only [membersOf, Option.map_eq_none_iff, List.find?_eq_none]
  intro m hm hname
  exact h m hm (beq_iff_eq.1 hname)

/-! ## Field by field -/

/-- A description of the first fields of a record, as far as it has come: the entries belong to the fields,
those that are kept have no fault, and with them the right value is made. -/
structure Completes (l : Layout ρ α) (keep : String → Bool) (entries : List (String × Tree)) (a : α) :
    Prop where
  names : entries.map (·.1) = l.fields.map (·.name)
  once : (entries.map (·.1)).Nodup
  check : ∀ m ∈ entries, keep m.1 = true →
    ∃ field, l.fields.find? (fun f => f.name == m.1) = some field ∧ field.check .json m.2 = .ok ()
  value : ∀ members : Members,
    (∀ field ∈ l.fields,
      members.find? field.name = (entries.filter fun m => keep m.1).lookup field.name) →
    l.read .json members = .ok a

theorem Completes.make (keep : String → Bool) (a : α) :
    (Layout.make a : Layout ρ α).Completes keep [] a where
  names := rfl
  once := List.nodup_nil
  check m hm := by cases hm
  value _ _ := rfl

section

variable {l : Layout ρ (α → β)} {keep : String → Bool} {entries : List (String × Tree)} {f : α → β}
  {name : String} {absent : Option α} {c : Codec α} {written : ρ → Option α} {t : Tree} {a : α}

theorem lookup_kept_eq_none (h : name ∉ entries.map (·.1)) :
    (entries.filter fun m => keep m.1).lookup name = none := by
  rw [List.lookup_eq_none_iff]
  intro m hm
  rw [bne_iff_ne]
  rintro rfl
  exact h (List.mem_map_of_mem (List.mem_filter.1 hm).1)

/-- One field more under a new name: it is kept and reads as a value, or it is left out and absent. -/
theorem Completes.slot (h : l.Completes keep entries f) (hname : name ∉ entries.map (·.1))
    (ha : keep name = true ∧ c.decode .json t = .ok a ∨ keep name = false ∧ absent = some a) :
    (l.slot name absent c written).Completes keep (entries ++ [(name, t)]) (f a) := by
  have hfields : name ∉ l.fields.map (·.name) := h.names ▸ hname
  constructor
  · simp [Layout.slot, h.names]
  · rw [List.map_append, List.nodup_append]
    refine ⟨h.once, by simp, ?_⟩
    rintro key hkey other hother rfl
    obtain rfl : key = name := by simpa using hother
    exact hname hkey
  · intro m hm hkept
    rcases List.mem_append.1 hm with hm | hm
    · obtain ⟨field, hfield, hcheck⟩ := h.check m hm hkept
      exact ⟨field, find?_slot_of_name hfield, hcheck⟩
    · obtain rfl := List.mem_singleton.1 hm
      rcases ha with ⟨-, hdecode⟩ | ⟨hdropped, -⟩
      · refine ⟨_, find?_slot_new hfields, ?_⟩
        show ((c.decode .json t).map fun _ => ()) = .ok ()
        rw [hdecode]
        rfl
      · cases hkept.symm.trans hdropped
  -- The fields in front find what they found before, and the new one finds its own entry.
  · intro members hmembers
    have hf : l.read .json members = .ok f := by
      apply h.value
      intro field hfield
      have hne : (field.name == name) = false := by
        rw [beq_eq_false_iff_ne]
        rintro rfl
        exact hfields (List.mem_map_of_mem hfield)
      rw [hmembers field (List.mem_append_left _ hfield), List.filter_append, List.lookup_append]
      cases hkeep : keep name <;> simp [hkeep, List.lookup_cons, hne]
    have hfind := hmembers _ (List.mem_append_right _ (List.mem_singleton_self _))
    rw [List.filter_append, List.lookup_append, lookup_kept_eq_none hname, Option.none_or] at hfind
    simp only [Layout.slot, hf, Codec.ok_bind]
    rcases ha with ⟨hkeep, hdecode⟩ | ⟨hkeep, habsent⟩
    · have hfound : members.find? name = some t := by simpa [hkeep] using hfind
      rw [hfound]
      show (c.decode .json t >>= fun a => .ok (f a)) = .ok (f a)
      rw [hdecode, Codec.ok_bind]
    · have hfound : members.find? name = none := by simpa [hkeep] using hfind
      rw [hfound, habsent]

end

section

variable {keep : String → Bool} {entries : List (String × Tree)} {t : Tree}

theorem Completes.required {l : Layout ρ (α → β)} {f : α → β} (h : l.Completes keep entries f)
    (name : String) {c : Codec α} {get : ρ → α} (hname : name ∉ entries.map (·.1))
    (hkeep : keep name = true) {a : α} (ha : c.decode .json t = .ok a) :
    (l.required name c get).Completes keep (entries ++ [(name, t)]) (f a) :=
  h.slot hname (.inl ⟨hkeep, ha⟩)

theorem Completes.defaulted {l : Layout ρ (α → β)} {f : α → β} (h : l.Completes keep entries f)
    (name : String) {c : Codec α} {absent : α} {get : ρ → α} (hname : name ∉ entries.map (·.1)) {a : α}
    (ha : c.decode .json t = .ok a) :
    (l.defaulted name c absent get).Completes keep (entries ++ [(name, t)])
      (f (if keep name then a else absent)) := by
  cases hkeep : keep name with
  | true => exact h.slot hname (.inl ⟨hkeep, ha⟩)
  | false => exact h.slot hname (.inr ⟨hkeep, rfl⟩)

theorem Completes.elided {l : Layout ρ (Option α → β)} {f : Option α → β}
    (h : l.Completes keep entries f) (name : String) {c : Codec α} {get : ρ → Option α}
    (hname : name ∉ entries.map (·.1)) {a : Option α} (ha : c.optional.decode .json t = .ok a) :
    (l.elided name c get).Completes keep (entries ++ [(name, t)]) (f (if keep name then a else none)) := by
  cases hkeep : keep name with
  | true => exact h.slot hname (.inl ⟨hkeep, ha⟩)
  | false => exact h.slot hname (.inr ⟨hkeep, rfl⟩)

/-- The members of a record with some of its members pass, and no two have the name of a field. -/
theorem Completes.passes {l : Layout ρ α} {a : α} (h : l.Completes keep entries a)
    {extra : List (String × Tree)}
    (hextra : ∀ m ∈ extra, m.1 ∉ entries.map (·.1) ∧ m.2.isWhole = true) :
    (∀ m ∈ seen (entries.filter (fun m => keep m.1) ++ extra), Passes l.fields m) ∧
      (seen (entries.filter (fun m => keep m.1) ++ extra)).Pairwise (Apart l.fields) := by
  have hunknown : ∀ m ∈ extra, ∀ field ∈ l.fields, field.name ≠ m.1 := by
    rintro m hm field hfield hname
    refine (hextra m hm).1 ?_
    rw [h.names, ← hname]
    exact List.mem_map_of_mem hfield
  have hapart : ∀ m ∈ extra, ∀ other, Apart l.fields other (some m.1, m.2) := by
    intro m hm other field hfield _ hname
    exact hunknown m hm field hfield (Option.some.inj hname).symm
  constructor
  · intro m hm
    obtain ⟨m, hmem, rfl⟩ := List.mem_map.1 hm
    refine ⟨m.1, rfl, ?_⟩
    rcases List.mem_append.1 hmem with hm | hm
    · obtain ⟨hentry, hkept⟩ := List.mem_filter.1 hm
      exact .inr (h.check m hentry hkept)
    · refine .inl ⟨?_, (hextra m hm).2⟩
      rw [List.find?_eq_none]
      intro field hfield
      rw [beq_iff_eq]
      exact hunknown m hm field hfield
  · rw [seen, List.pairwise_map, List.pairwise_append]
    refine ⟨?_, ?_, fun m _ m' hm' => hapart m' hm' _⟩
    · refine ((List.pairwise_map.1 h.once).filter _).imp ?_
      intro m m' hne field _ hm hm'
      exact hne (Option.some.inj (hm.trans hm'.symm))
    · exact List.pairwise_of_forall_mem_list fun m _ m' hm' => hapart m' hm' _

/-- A record with some of its members is read as what these give, and what stands for the others. -/
theorem Completes.decode {l : Layout ρ ρ} {r : ρ} (h : l.Completes keep entries r)
    (ht : Keeps entries keep t) : l.codec.decode .json t = .ok r := by
  obtain ⟨extra, members, hextra, hperm, rfl⟩ := ht
  obtain ⟨hpasses, hpairs⟩ := h.passes hextra
  have hapart : members.Pairwise (Apart l.fields) := (hperm.pairwise_iff Apart.symm).2 hpairs
  have hcheck : checkMembers l.fields .json [] members = .ok () :=
    checkMembers_passes (fun m hm => hpasses m (hperm.mem_iff.1 hm)) hapart []
      fun _ _ _ _ _ => List.not_mem_nil
  have hvalue : l.read .json (membersOf members) = .ok r := by
    apply h.value
    intro field hfield
    cases hlookup : (entries.filter fun m => keep m.1).lookup field.name with
    | some t =>
      obtain ⟨before, behind, hkept, -⟩ := List.lookup_eq_some_iff.1 hlookup
      have hmem : (field.name, t) ∈ entries.filter fun m => keep m.1 := by
        rw [hkept]
        exact List.mem_append_right _ List.mem_cons_self
      exact find?_membersOf_of_mem hapart hfield
        (hperm.mem_iff.2 (List.mem_map.2 ⟨_, List.mem_append_left _ hmem, rfl⟩))
    | none =>
      refine find?_membersOf_of_not_mem fun m hm hname => ?_
      obtain ⟨m, hmem, rfl⟩ := List.mem_map.1 (hperm.mem_iff.1 hm)
      have hname : m.1 = field.name := Option.some.inj hname
      rcases List.mem_append.1 hmem with hkept | hmem
      · exact bne_iff_ne.1 (List.lookup_eq_none_iff.1 hlookup m hkept) hname.symm
      · refine (hextra m hmem).1 ?_
        rw [h.names, hname]
        exact List.mem_map_of_mem hfield
  simp only [codec, hcheck, Codec.ok_bind, Ending.check, hvalue]

end

end Layout

end Enrollment.Document

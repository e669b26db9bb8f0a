import Enrollment.Lifecycle.Operations
import Enrollment.Proofs.Address.Spelling
import Enrollment.Proofs.Settings.Defects
import Enrollment.Settings.Loading
/-!
# What settings announce

What a node with settings that pass sends to be registered: its address, the one of its payments, the
version of its software and the identifiers of its containers, as they were configured.

Results:
 1. `text_of_readAddress`: an address that was read is spelled as it was configured.
 2. `announces_of_lifecycle`: the registration of a node is what its settings announce.
-/

namespace Enrollment.Settings

/-- How an address is spelled that was given with blanks around it or in upper case. -/
def canonical (given : String) : List Char :=
  (Text.trim given.toList).map Char.toLower

/-- A request to register a node tells what its settings say. -/
structure Announces (s : Settings) (r : Registration.Request) : Prop where
  address : r.address.text.toList = canonical s.node.address
  nonzero : r.address.isZero = false
  payment : r.paymentAddress.map (fun a => a.text.toList) = s.node.paymentAddress.map canonical
  version : r.version = buildVersion
  containers : r.containers = s.containers.map (·.id)
  named : ∀ id ∈ r.containers, Text.isAllBlank id = false
  distinct : r.containers.Nodup

variable {s : Settings}

/-! ## Addresses -/

theorem text_of_readAddress {given : String} {a : Address} (h : readAddress given = .ok a) :
    a.text.toList = canonical given := by
  cases hparse : Address.parse given with
  | error fault =>
    rw [readAddress, hparse] at h
    cases h
  | ok b =>
    rw [readAddress, hparse] at h
    cases h
    exact Address.text_of_parse hparse

theorem nodeAddress_ok {a : Address} (h : s.nodeAddress = .ok a) :
    a.text.toList = canonical s.node.address ∧ a.isZero = false := by
  unfold nodeAddress at h
  split at h
  · cases h
  · obtain ⟨b, hread, h⟩ := ok_of_bind h
    split at h
    · cases h
    · next hzero =>
      cases h
      exact ⟨text_of_readAddress hread, Bool.eq_false_iff.2 hzero⟩

theorem paymentAddress_ok {a : Option Address} (h : s.paymentAddress = .ok a) :
    a.map (fun a => a.text.toList) = s.node.paymentAddress.map canonical := by
  unfold paymentAddress at h
  cases hgiven : s.node.paymentAddress with
  | none =>
    rw [hgiven] at h
    cases h
    rfl
  | some given =>
    rw [hgiven] at h
    dsimp only at h
    cases hread : readAddress given with
    | error f =>
      rw [hread] at h
      cases h
    | ok b =>
      rw [hread] at h
      cases h
      exact congrArg some (text_of_readAddress hread)

/-! ## Registrations -/

/-- The registration of a node is what its settings announce. -/
theorem announces_of_lifecycle (hvalid : s.validate = .ok ()) {env : Environment}
    {coordinatorUrl : String} {l : Lifecycle} (h : s.lifecycle env coordinatorUrl = .ok l) :
    s.Announces l.registration := by
  obtain ⟨path, -, h⟩ := ok_of_bind h
  obtain ⟨address, haddress, h⟩ := ok_of_bind h
  obtain ⟨payment, hpayment, h⟩ := ok_of_bind h
  cases h
  obtain ⟨htext, hzero⟩ := nodeAddress_ok haddress
  have hlegal := validate_eq_ok_iff.1 hvalid
  refine ⟨htext, hzero, paymentAddress_ok hpayment, rfl, rfl, ?_, hlegal.distinct⟩
  intro id hid
  obtain ⟨c, hc, rfl⟩ := List.mem_map.1 hid
  exact hlegal.named c hc

end Enrollment.Settings

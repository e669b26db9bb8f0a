import Enrollment.Proofs.Url.Extension
import Enrollment.Settings.Validation
/-!
# What settings are refused for

Settings can be used or they have a defect, and often more than one. A defect has a place in the
order in which the conditions stand: first the coordinator, then the addresses, the log files, and
the containers one behind the other. Settings with a defect are refused for the one whose place is
first.

Results:
 1. `legal_iff`: settings can be used exactly if they have no defect.
 2. `checkContainers_reportsFirst`: the containers are checked one behind the other, each against
    those ahead of it.
 3. `validate_iff`: which settings pass, and what the others are refused for.
-/

namespace Enrollment.Settings

/-! ## Settings that can be used -/

structure Legal (s : Settings) : Prop where
  located : Text.isAllBlank s.coordinator.url = false
  web : ∃ u, Url.parse s.coordinator.url = .ok u ∧ Url.IsWebScheme u.scheme
  timeout : 0 < s.coordinator.timeout
  known : Text.isAllBlank s.node.address = false
  address : ∃ a, Address.parse s.node.address = .ok a ∧ a.isZero = false
  payment : ∀ given, s.node.paymentAddress = some given → ∃ a, Address.parse given = .ok a
  files : 0 < s.log.maxFiles
  named : ∀ c ∈ s.containers, Text.isAllBlank c.id = false
  imaged : ∀ c ∈ s.containers, Text.isAllBlank c.image = false
  distinct : (s.containers.map (·.id)).Nodup

/-! ## Defects -/

/-- A condition on settings, of which they may fall short. A container is meant by its position. -/
inductive Defect
  | blankUrl
  | brokenUrl
  | foreignScheme
  | noTimeout
  | blankAddress
  | brokenAddress
  | zeroAddress
  | brokenPayment
  | noLogFiles
  | blankId (i : Nat)
  | blankImage (i : Nat)
  | repeatedId (i : Nat)

def Defect.place : Defect → Nat
  | blankUrl => 0
  | brokenUrl => 1
  | foreignScheme => 2
  | noTimeout => 3
  | blankAddress => 4
  | brokenAddress => 5
  | zeroAddress => 6
  | brokenPayment => 7
  | noLogFiles => 8
  | blankId i => 9 + 3 * i
  | blankImage i => 9 + 3 * i + 1
  | repeatedId i => 9 + 3 * i + 2

/-- Settings have a defect, and this is how it is put:

- the URL of the coordinator is blank, cannot be read, or is not of the web;
- a request may take no time;
- the address of the node is blank, cannot be read, or is zero;
- the address of the payments is given, and cannot be read;
- no log files are kept;
- a container has a blank identifier, a blank image, or the identifier of one ahead of it. -/
inductive Has (s : Settings) : Defect → Failure → Prop
  | blankUrl (h : Text.isAllBlank s.coordinator.url = true) :
      Has s .blankUrl (.settings "coordinator.url must be set (or INFERNET_COORDINATOR_URL)")
  | brokenUrl {fault : Url.Fault} (h : Url.parse s.coordinator.url = .error fault) :
      Has s .brokenUrl (.invalidUrl (s.coordinator.url ++ ": " ++ fault.message))
  | foreignScheme {u : Url} (hu : Url.parse s.coordinator.url = .ok u)
      (h : ¬Url.IsWebScheme u.scheme) :
      Has s .foreignScheme (.invalidUrl (s.coordinator.url ++ ": scheme must be http or https"))
  | noTimeout (h : s.coordinator.timeout = 0) :
      Has s .noTimeout (.settings "coordinator.timeout_secs must be greater than zero")
  | blankAddress (h : Text.isAllBlank s.node.address = true) :
      Has s .blankAddress (.settings "node.address must be set (or INFERNET_NODE_ADDRESS)")
  | brokenAddress {fault : Address.Fault} (h : Address.parse s.node.address = .error fault) :
      Has s .brokenAddress (.invalidAddress fault.message)
  | zeroAddress {a : Address} (ha : Address.parse s.node.address = .ok a)
      (h : a.isZero = true) :
      Has s .zeroAddress (.invalidAddress "node.address must not be the zero address")
  | brokenPayment {given : String} {fault : Address.Fault}
      (hgiven : s.node.paymentAddress = some given) (h : Address.parse given = .error fault) :
      Has s .brokenPayment (.invalidAddress fault.message)
  | noLogFiles (h : s.log.maxFiles = 0) :
      Has s .noLogFiles (.settings "log.max_files must be greater than zero")
  | blankId {i : Nat} {c : Container} (hc : s.containers[i]? = some c)
      (h : Text.isAllBlank c.id = true) :
      Has s (.blankId i) (.settings "container id must not be empty")
  | blankImage {i : Nat} {c : Container} (hc : s.containers[i]? = some c)
      (h : Text.isAllBlank c.image = true) :
      Has s (.blankImage i) (.settings ("container " ++ c.id ++ ": image must not be empty"))
  | repeatedId {i j : Nat} {c c' : Container} (hc : s.containers[i]? = some c)
      (hc' : s.containers[j]? = some c') (hj : j < i) (h : c'.id = c.id) :
      Has s (.repeatedId i) (.settings ("duplicate container id: " ++ c.id))

variable {s : Settings} {d d' : Defect} {f f' : Failure} {n m k : Nat}

theorem Defect.eq_of_place (h : d.place = d'.place) : d = d' := by
  cases d <;> cases d' <;> simp only [place] at h ⊢ <;> first | omega | (congr 1; omega)

/-- A defect is put in one way. -/
theorem Has.unique (h : s.Has d f) (h' : s.Has d f') : f = f' := by
  cases h with
  | brokenUrl h =>
    cases h' with
    | brokenUrl h' => rw [Except.error.inj (h.symm.trans h')]
  | brokenAddress h =>
    cases h' with
    | brokenAddress h' => rw [Except.error.inj (h.symm.trans h')]
  | brokenPayment hgiven h =>
    cases h' with
    | brokenPayment hgiven' h' =>
      obtain rfl := Option.some.inj (hgiven.symm.trans hgiven')
      rw [Except.error.inj (h.symm.trans h')]
  | blankImage hc =>
    cases h' with
    | blankImage hc' => rw [Option.some.inj (hc.symm.trans hc')]
  | repeatedId hc =>
    cases h' with
    | repeatedId hc' => rw [Option.some.inj (hc.symm.trans hc')]
  | _ => cases h'; rfl

/-- Two containers with one identifier are two positions of it. -/
theorem nodup_ids_iff (cs : List Container) : (cs.map (·.id)).Nodup ↔
    ∀ (i j : Nat) (c c' : Container), cs[i]? = some c → cs[j]? = some c' → j < i →
      c'.id ≠ c.id := by
  rw [List.nodup_iff_pairwise_ne, List.pairwise_map, List.pairwise_iff_getElem]
  constructor
  · intro h i j c c' hc hc' hj
    obtain ⟨hi, rfl⟩ := List.getElem?_eq_some_iff.1 hc
    obtain ⟨hj', rfl⟩ := List.getElem?_eq_some_iff.1 hc'
    exact h j i hj' hi hj
  · intro h j i hj hi hlt
    exact h i j _ _ (List.getElem?_eq_getElem hi) (List.getElem?_eq_getElem hj) hlt

/-- Settings can be used exactly if they have no defect. -/
theorem legal_iff : s.Legal ↔ ∀ d f, ¬s.Has d f := by
  constructor
  · intro h d f hd
    cases hd with
    | blankUrl hblank => exact Bool.noConfusion (h.located.symm.trans hblank)
    | brokenUrl hfault =>
      obtain ⟨u, hu, -⟩ := h.web
      cases hu.symm.trans hfault
    | foreignScheme hu hforeign =>
      obtain ⟨u, hu', hweb⟩ := h.web
      cases hu.symm.trans hu'
      exact hforeign hweb
    | noTimeout hzero => exact UInt64.pos_iff_ne_zero.1 h.timeout hzero
    | blankAddress hblank => exact Bool.noConfusion (h.known.symm.trans hblank)
    | brokenAddress hfault =>
      obtain ⟨a, ha, -⟩ := h.address
      cases ha.symm.trans hfault
    | zeroAddress ha hzero =>
      obtain ⟨a, ha', hnonzero⟩ := h.address
      cases ha.symm.trans ha'
      exact Bool.noConfusion (hnonzero.symm.trans hzero)
    | brokenPayment hgiven hfault =>
      obtain ⟨a, ha⟩ := h.payment _ hgiven
      cases ha.symm.trans hfault
    | noLogFiles hzero => exact UInt64.pos_iff_ne_zero.1 h.files hzero
    | blankId hc hblank =>
      exact Bool.noConfusion ((h.named _ (List.mem_of_getElem? hc)).symm.trans hblank)
    | blankImage hc hblank =>
      exact Bool.noConfusion ((h.imaged _ (List.mem_of_getElem? hc)).symm.trans hblank)
    | repeatedId hc hc' hj hsame =>
      exact (nodup_ids_iff _).1 h.distinct _ _ _ _ hc hc' hj hsame
  · intro h
    refine ⟨?_, ?_, ?_, ?_, ?_, ?_, ?_, ?_, ?_, ?_⟩
    · exact Bool.eq_false_iff.2 fun hblank => h _ _ (.blankUrl hblank)
    · cases hu : Url.parse s.coordinator.url with
      | error fault => exact absurd (.brokenUrl hu) (h _ _)
      | ok u => exact ⟨u, rfl, Classical.byContradiction fun hweb => h _ _ (.foreignScheme hu hweb)⟩
    · exact UInt64.pos_iff_ne_zero.2 fun hzero => h _ _ (.noTimeout hzero)
    · exact Bool.eq_false_iff.2 fun hblank => h _ _ (.blankAddress hblank)
    · cases ha : Address.parse s.node.address with
      | error fault => exact absurd (.brokenAddress ha) (h _ _)
      | ok a => exact ⟨a, rfl, Bool.eq_false_iff.2 fun hzero => h _ _ (.zeroAddress ha hzero)⟩
    · intro given hgiven
      cases ha : Address.parse given with
      | error fault => exact absurd (.brokenPayment hgiven ha) (h _ _)
      | ok a => exact ⟨a, rfl⟩
    · exact UInt64.pos_iff_ne_zero.2 fun hzero => h _ _ (.noLogFiles hzero)
    · intro c hc
      obtain ⟨i, hi⟩ := List.mem_iff_getElem?.1 hc
      exact Bool.eq_false_iff.2 fun hblank => h _ _ (.blankId hi hblank)
    · intro c hc
      obtain ⟨i, hi⟩ := List.mem_iff_getElem?.1 hc
      exact Bool.eq_false_iff.2 fun hblank => h _ _ (.blankImage hi hblank)
    · exact (nodup_ids_iff _).2 fun i j c c' hc hc' hj hsame => h _ _ (.repeatedId hc hc' hj hsame)

/-! ## The first defect -/

/-- Settings have no defect ahead of a place. -/
def CleanTo (s : Settings) (n : Nat) : Prop :=
  ∀ d f, s.Has d f → n ≤ d.place

/-- Settings have a defect, and no other has an earlier place. -/
def HasFirst (s : Settings) (d : Defect) (f : Failure) : Prop :=
  s.Has d f ∧ s.CleanTo d.place

/-- A check looks for the defects from one place to another: if there is none ahead, it fails for
the first defect of all, or it succeeds and there is none up to the other place. -/
def ReportsFirst {α : Type} (s : Settings) (n m : Nat) (x : Except Failure α) : Prop :=
  s.CleanTo n → (∃ f, x = .error f ∧ ∃ d, s.HasFirst d f) ∨ ∃ a, x = .ok a ∧ s.CleanTo m

variable {α β : Type} {x : Except Failure α}

/-- There is one first defect. -/
theorem HasFirst.unique (h : s.HasFirst d f) (h' : s.HasFirst d' f') : f = f' := by
  obtain rfl := Defect.eq_of_place (Nat.le_antisymm (h.2 _ _ h'.1) (h'.2 _ _ h.1))
  exact h.1.unique h'.1

theorem CleanTo.past (h : s.CleanTo d.place) (hd : ∀ f, ¬s.Has d f) :
    s.CleanTo (d.place + 1) := by
  intro d' f' hd'
  refine Nat.lt_of_le_of_ne (h d' f' hd') fun hplace => ?_
  obtain rfl := Defect.eq_of_place hplace
  exact hd f' hd'

/-- One check behind another. -/
theorem ReportsFirst.bind {g : α → Except Failure β} (hx : s.ReportsFirst n m x)
    (hg : ∀ a, x = .ok a → s.ReportsFirst m k (g a)) : s.ReportsFirst n k (x >>= g) := by
  intro hn
  rcases hx hn with ⟨f, rfl, hfirst⟩ | ⟨a, rfl, hm⟩
  · exact .inl ⟨f, rfl, hfirst⟩
  · exact hg a rfl hm

/-- A check that has come to its end. -/
theorem ReportsFirst.done (a : α) : s.ReportsFirst n n (.ok a) :=
  fun hclean => .inr ⟨a, rfl, hclean⟩

/-- A check that has found a defect. -/
theorem ReportsFirst.fail (h : s.Has d f) :
    s.ReportsFirst d.place m (.error f : Except Failure α) :=
  fun hclean => .inl ⟨f, rfl, d, h, hclean⟩

/-- A check that goes on behind a defect that settings do not have. -/
theorem ReportsFirst.past (d : Defect) (h : ∀ f, ¬s.Has d f)
    (hx : s.ReportsFirst (d.place + 1) m x) : s.ReportsFirst d.place m x :=
  fun hclean => hx (hclean.past h)

/-- A check whether settings have a defect, in front of others. -/
theorem ReportsFirst.check {p : Prop} [Decidable p] (d : Defect) (hfails : p → s.Has d f)
    (hgoes : ∀ f', s.Has d f' → p) (hx : s.ReportsFirst (d.place + 1) m x) :
    s.ReportsFirst d.place m (if p then .error f else x) := by
  split
  · next hp => exact .fail (hfails hp)
  · next hp => exact .past d (fun f' hd => hp (hgoes f' hd)) hx

/-! ## The checks -/

theorem checkWebUrl_reportsFirst :
    s.ReportsFirst Defect.brokenUrl.place Defect.noTimeout.place
      (Client.checkWebUrl s.coordinator.url) := by
  unfold Client.checkWebUrl
  split
  · next fault hfault => exact .fail (.brokenUrl hfault)
  · next u hu =>
    refine .past .brokenUrl ?_ ?_
    · intro f hd
      cases hd with
      | brokenUrl hfault => cases hu.symm.trans hfault
    · split
      · next hweb =>
        refine .past .foreignScheme ?_ (.done u)
        intro f hd
        cases hd with
        | foreignScheme hu' hforeign =>
          cases hu.symm.trans hu'
          exact hforeign ((Url.isWeb_iff u).1 hweb)
      · next hforeign =>
        exact .fail (.foreignScheme hu fun hweb => hforeign ((Url.isWeb_iff u).2 hweb))

theorem coordinator_reportsFirst :
    s.ReportsFirst Defect.blankUrl.place Defect.blankAddress.place s.coordinator.validate := by
  refine .check .blankUrl .blankUrl ?_ (checkWebUrl_reportsFirst.bind fun _ _ =>
    .check .noTimeout .noTimeout ?_ (.done ()))
  · intro f hd
    cases hd with
    | blankUrl hblank => exact hblank
  · intro f hd
    cases hd with
    | noTimeout hzero => exact hzero

theorem nodeAddress_reportsFirst :
    s.ReportsFirst Defect.blankAddress.place Defect.brokenPayment.place s.nodeAddress := by
  refine .check .blankAddress .blankAddress ?_ ?_
  · intro f hd
    cases hd with
    | blankAddress hblank => exact hblank
  · cases haddress : Address.parse s.node.address with
    | error fault =>
      rw [readAddress, haddress]
      exact .fail (.brokenAddress haddress)
    | ok a =>
      rw [readAddress, haddress]
      refine .past .brokenAddress ?_ (.check .zeroAddress (.zeroAddress haddress) ?_ (.done a))
      · intro f hd
        cases hd with
        | brokenAddress hfault => cases haddress.symm.trans hfault
      · intro f hd
        cases hd with
        | zeroAddress ha hzero =>
          cases haddress.symm.trans ha
          exact hzero

theorem paymentAddress_reportsFirst :
    s.ReportsFirst Defect.brokenPayment.place Defect.noLogFiles.place s.paymentAddress := by
  unfold paymentAddress
  cases hgiven : s.node.paymentAddress with
  | none =>
    refine .past .brokenPayment ?_ (.done none)
    intro f hd
    cases hd with
    | brokenPayment hgiven' _ => cases hgiven.symm.trans hgiven'
  | some given =>
    dsimp only
    cases haddress : Address.parse given with
    | error fault =>
      rw [readAddress, haddress]
      exact .fail (.brokenPayment hgiven haddress)
    | ok a =>
      rw [readAddress, haddress]
      refine .past .brokenPayment ?_ (.done (some a))
      intro f hd
      cases hd with
      | brokenPayment hgiven' hfault =>
        cases hgiven.symm.trans hgiven'
        cases haddress.symm.trans hfault

theorem mem_ids_iff {front rest : List Container} {id : String} : id ∈ front.map (·.id) ↔
    ∃ j c, (front ++ rest)[j]? = some c ∧ j < front.length ∧ c.id = id := by
  constructor
  · intro h
    obtain ⟨c, hc, hsame⟩ := List.mem_map.1 h
    obtain ⟨j, hj⟩ := List.mem_iff_getElem?.1 hc
    have hlt := (List.getElem?_eq_some_iff.1 hj).1
    exact ⟨j, c, (List.getElem?_append_left hlt).trans hj, hlt, hsame⟩
  · rintro ⟨j, c, hc, hlt, hsame⟩
    rw [List.getElem?_append_left hlt] at hc
    exact List.mem_map.2 ⟨c, List.mem_of_getElem? hc, hsame⟩

/-- The containers are checked one behind the other. What is known of those ahead is which
identifiers they have. -/
theorem checkContainers_reportsFirst {seen : List String} {front rest : List Container}
    (hs : s.containers = front ++ rest) (hseen : ∀ id, id ∈ seen ↔ id ∈ front.map (·.id)) :
    s.ReportsFirst (Defect.blankId front.length).place (Defect.blankId s.containers.length).place
      (checkContainers seen rest) := by
  induction rest generalizing seen front with
  | nil =>
    rw [hs, List.append_nil]
    exact .done ()
  | cons c rest ih =>
    have hc : s.containers[front.length]? = some c := by
      rw [hs, List.getElem?_append_right (Nat.le_refl _), Nat.sub_self]
      rfl
    have hmem : c.id ∈ seen ↔
        ∃ j c', s.containers[j]? = some c' ∧ j < front.length ∧ c'.id = c.id := by
      rw [hs, hseen]
      exact mem_ids_iff
    have hs' : s.containers = (front ++ [c]) ++ rest := by
      rw [hs, List.append_assoc]
      rfl
    have hseen' : ∀ id, id ∈ c.id :: seen ↔ id ∈ (front ++ [c]).map (·.id) := by
      intro id
      rw [List.mem_cons, hseen, List.map_append, List.mem_append, or_comm]
      exact or_congr_right List.mem_singleton.symm
    have hrest := ih hs' hseen'
    rw [List.length_append] at hrest
    refine .check (.blankId _) (.blankId hc) ?_ (.check (.blankImage _) (.blankImage hc) ?_
      (.check (.repeatedId _) ?_ ?_ hrest))
    · intro f hd
      cases hd with
      | blankId hc' hblank =>
        cases hc.symm.trans hc'
        exact hblank
    · intro f hd
      cases hd with
      | blankImage hc' hblank =>
        cases hc.symm.trans hc'
        exact hblank
    · intro hold
      obtain ⟨j, c', hc', hlt, hsame⟩ := hmem.1 hold
      exact .repeatedId hc hc' hlt hsame
    · intro f hd
      cases hd with
      | repeatedId hc' hahead hlt hsame =>
        cases hc.symm.trans hc'
        exact hmem.2 ⟨_, _, hahead, hlt, hsame⟩

/-- What settings are refused for is their first defect, if they have any. -/
theorem validate_reportsFirst :
    s.ReportsFirst Defect.blankUrl.place (Defect.blankId s.containers.length).place s.validate := by
  have hcontainers : s.ReportsFirst (Defect.blankId 0).place _ (checkContainers [] s.containers) :=
    checkContainers_reportsFirst (List.nil_append _).symm fun _ => Iff.rfl
  refine coordinator_reportsFirst.bind fun _ _ => nodeAddress_reportsFirst.bind fun _ _ =>
    paymentAddress_reportsFirst.bind fun _ _ => .check .noLogFiles .noLogFiles ?_ hcontainers
  intro f hd
  cases hd with
  | noLogFiles hzero => exact hzero

/-- No defect stands behind the last container. -/
theorem Has.place_lt (h : s.Has d f) : d.place < (Defect.blankId s.containers.length).place := by
  have hlt : ∀ {i : Nat} {c : Container}, s.containers[i]? = some c → i < s.containers.length :=
    fun hc => (List.getElem?_eq_some_iff.1 hc).1
  cases h with
  | blankId hc => have := hlt hc; simp only [Defect.place]; omega
  | blankImage hc => have := hlt hc; simp only [Defect.place]; omega
  | repeatedId hc => have := hlt hc; simp only [Defect.place]; omega
  | _ => simp only [Defect.place]; omega

/-- Settings pass exactly if they can be used. -/
theorem validate_eq_ok_iff : s.validate = .ok () ↔ s.Legal := by
  have hclean : s.CleanTo Defect.blankUrl.place := fun d _ _ => Nat.zero_le d.place
  rcases validate_reportsFirst hclean with ⟨f, hf, d, hfirst⟩ | ⟨_, hok, hnone⟩
  · rw [hf]
    exact iff_of_false nofun fun hlegal => legal_iff.1 hlegal d f hfirst.1
  · rw [hok]
    refine iff_of_true rfl (legal_iff.2 fun d f hd => ?_)
    exact Nat.not_le_of_lt hd.place_lt (hnone d f hd)

/-- Settings are refused for their first defect. -/
theorem validate_eq_error_iff : s.validate = .error f ↔ ∃ d, s.HasFirst d f := by
  have hclean : s.CleanTo Defect.blankUrl.place := fun d _ _ => Nat.zero_le d.place
  rcases validate_reportsFirst hclean with ⟨f', hf', d', hfirst'⟩ | ⟨_, hok, -⟩
  · rw [hf']
    constructor
    · intro h
      cases h
      exact ⟨d', hfirst'⟩
    · rintro ⟨d, hfirst⟩
      exact congrArg Except.error (hfirst'.unique hfirst)
  · rw [hok]
    refine iff_of_false nofun ?_
    rintro ⟨d, hd, -⟩
    exact legal_iff.1 (validate_eq_ok_iff.1 hok) d f hd

/-- Settings pass exactly if they can be used. Others are refused for their first defect. -/
theorem validate_iff (s : Settings) :
    (s.validate = .ok () ↔ s.Legal) ∧
    ∀ f, s.validate = .error f ↔ ∃ d, s.Has d f ∧ ∀ d' f', s.Has d' f' → d.place ≤ d'.place :=
  ⟨validate_eq_ok_iff, fun _ => validate_eq_error_iff⟩

end Enrollment.Settings

import Enrollment.Proofs.Url.Following
/-!
# URLs with more behind them

How a text is read as a URL of the web when something is put behind it: the scheme and, as a rule,
the authority stay what they are, and what was put behind belongs to the path.

Results:
 1. `cleaned_append`, `opening_eq`: blanks at the end of a text are dropped, but not in front of more.
 2. `scheme?_append`: the scheme stays the same.
 3. `parse_web`: a text without query and fragment is its scheme, its authority and its path.
-/

namespace Enrollment.Url

/-! ## Blanks at the ends -/

/-- What is dropped at both ends of a text. -/
def isEdge (c : Char) : Bool :=
  c.toNat ≤ 0x20

/-- What is not dropped within a text. -/
def isShown (c : Char) : Bool :=
  c != '\t' && c != '\n' && c != '\r'

/-- What is read of a text when more follows. -/
def opening (s : List Char) : List Char :=
  (s.dropWhile isEdge).filter isShown

/-- What is read at the end of a text only if more follows. -/
def ending (s : List Char) : List Char :=
  ((s.dropWhile isEdge).rtakeWhile isEdge).filter isShown

theorem cleaned_eq (s : List Char) :
    cleaned s = ((s.dropWhile isEdge).rdropWhile isEdge).filter isShown := rfl

theorem isShown_of_not_isEdge {c : Char} (h : isEdge c = false) : isShown c = true := by
  have hne : ∀ d : Char, isEdge d = true → (c != d) = true := by
    intro d hd
    refine bne_iff_ne.2 ?_
    rintro rfl
    rw [h] at hd
    cases hd
  rw [isShown, hne _ (by decide), hne _ (by decide), hne _ (by decide)]
  rfl

theorem cleaned_append (s : List Char) {t : List Char} (ht : ∀ c ∈ t, isEdge c = false)
    (hne : t ≠ []) : cleaned (s ++ t) = opening s ++ t := by
  have hfront : (s ++ t).dropWhile isEdge = s.dropWhile isEdge ++ t := by
    rw [List.dropWhile_append]
    split
    · next hs =>
      rw [List.isEmpty_iff.1 hs, List.nil_append]
      refine List.dropWhile_eq_self_iff.2 fun hlength => ?_
      rw [ht _ (List.getElem_mem hlength)]
      decide
    · rfl
  have hback : (s.dropWhile isEdge ++ t).rdropWhile isEdge = s.dropWhile isEdge ++ t := by
    refine List.rdropWhile_eq_self_iff.2 fun hl => ?_
    rw [List.getLast_append_of_ne_nil _ hne, ht _ (List.getLast_mem hne)]
    decide
  rw [cleaned_eq, hfront, hback, List.filter_append,
    List.filter_eq_self.2 fun c hc => isShown_of_not_isEdge (ht c hc)]
  rfl

theorem opening_eq (s : List Char) : opening s = cleaned s ++ ending s := by
  rw [cleaned_eq, ending, ← List.filter_append, List.rdropWhile_append_rtakeWhile]
  rfl

theorem isBlank_ending (s : List Char) : IsBlank (ending s) := by
  intro c hc
  have hedge : isEdge c = true := List.mem_rtakeWhile_imp (List.mem_filter.1 hc).1
  exact of_decide_eq_true hedge

/-- Nothing more is read at the end of a text whose last blanks are all ones that are dropped
everywhere. -/
theorem ending_eq_nil_iff {s : List Char} (h : cleaned s ≠ []) :
    ending s = [] ↔ ∀ c ∈ s.rtakeWhile isEdge, isShown c = false := by
  have hback : s.rtakeWhile isEdge = (s.dropWhile isEdge).rtakeWhile isEdge := by
    conv => lhs; rw [← List.takeWhile_append_dropWhile (p := isEdge) (l := s)]
    unfold List.rtakeWhile
    rw [List.reverse_append, List.takeWhile_append, if_neg]
    intro hlength
    -- All of the text would be blank.
    refine h ?_
    have hall := List.takeWhile_eq_self_iff.1
      ((List.takeWhile_prefix isEdge).eq_of_length hlength)
    rw [cleaned_eq, List.rdropWhile_eq_nil_iff.2 fun c hc => hall c (List.mem_reverse.2 hc)]
    rfl
  rw [ending, ← hback, List.filter_eq_nil_iff]
  exact forall₂_congr fun c _ => iff_of_eq (Bool.not_eq_true _)

/-! ## Schemes -/

theorem scheme?_eq_some_iff {s scheme rest : List Char} :
    scheme? s = some (scheme, rest) ↔
      ∃ name, s = name ++ ':' :: rest ∧ (∀ c ∈ name, inScheme c = true) ∧
        (∃ c ∈ name.head?, c.isAlpha = true) ∧ scheme = name.map Char.toLower := by
  constructor
  · intro h
    unfold scheme? at h
    split at h
    · next c t =>
      split at h
      · next rest' hrest =>
        split at h
        · next halpha =>
          obtain ⟨rfl, rfl⟩ := Prod.mk.inj (Option.some.inj h)
          have hsplit := List.takeWhile_append_dropWhile (p := inScheme) (l := c :: t)
          rw [hrest] at hsplit
          refine ⟨_, hsplit.symm, fun d hd => List.mem_takeWhile_imp hd, ⟨c, ?_, halpha⟩, rfl⟩
          rw [List.takeWhile_cons, if_pos]
          · rfl
          · simp [inScheme, Char.isAlphanum, halpha]
        · cases h
      · cases h
    · cases h
  · rintro ⟨name, rfl, hname, ⟨c, hc, halpha⟩, rfl⟩
    cases name with
    | nil => cases hc
    | cons d name =>
      cases hc
      have hdrop : (c :: name ++ ':' :: rest).dropWhile inScheme = ':' :: rest := by
        rw [List.dropWhile_append_of_pos hname]
        rfl
      have htake : (c :: name ++ ':' :: rest).takeWhile inScheme = c :: name := by
        rw [List.takeWhile_append_of_pos hname]
        exact List.append_nil _
      unfold scheme?
      rw [List.cons_append]
      dsimp only
      rw [← List.cons_append, hdrop, htake]
      exact if_pos halpha

/-- What cannot belong to a scheme leaves the scheme in front of it as it is. -/
theorem scheme?_append (s : List Char) {t : List Char}
    (ht : ∀ c ∈ t.head?, inScheme c = false ∧ c ≠ ':') :
    scheme? (s ++ t) = (scheme? s).map fun p => (p.1, p.2 ++ t) := by
  apply Option.ext
  rintro ⟨scheme, rest⟩
  rw [Option.map_eq_some_iff, scheme?_eq_some_iff]
  constructor
  · rintro ⟨name, heq, hname, hhead, rfl⟩
    rcases List.append_eq_append_iff.1 heq with ⟨front, rfl, hrest⟩ | ⟨behind, rfl, hrest⟩
    · -- The name would reach into what was put behind.
      exfalso
      cases front with
      | nil => exact (ht ':' (by rw [hrest]; rfl)).2 rfl
      | cons c front =>
        have hc := (ht c (by rw [hrest]; rfl)).1
        rw [hname c (List.mem_append_right s List.mem_cons_self)] at hc
        cases hc
    · cases behind with
      | nil => exact absurd rfl (ht ':' (by rw [← List.nil_append t, ← hrest]; rfl)).2
      | cons c behind =>
        obtain ⟨rfl, rfl⟩ := List.cons_eq_cons.1 hrest
        exact ⟨(name.map Char.toLower, behind),
          scheme?_eq_some_iff.2 ⟨name, rfl, hname, hhead, rfl⟩, rfl⟩
  · rintro ⟨⟨scheme', rest'⟩, hs, heq⟩
    obtain ⟨rfl, rfl⟩ := Prod.mk.inj heq
    obtain ⟨name, rfl, hname, hhead, rfl⟩ := scheme?_eq_some_iff.1 hs
    exact ⟨name, List.append_assoc _ _ _, hname, hhead, rfl⟩

/-- A mark that no scheme has in it stands behind the scheme. -/
theorem mem_rest {s scheme rest : List Char} (h : scheme? s = some (scheme, rest)) {mark : Char}
    (hmark : inScheme mark = false) (hcolon : mark ≠ ':') : mark ∈ s ↔ mark ∈ rest := by
  obtain ⟨name, rfl, hname, -, -⟩ := scheme?_eq_some_iff.1 h
  have hnot : mark ∉ name := by
    intro hin
    rw [hname mark hin] at hmark
    cases hmark
  simp [hnot, hcolon]

/-! ## Queries and fragments -/

theorem cutAt_of_notMem {mark : Char} {s : List Char} (h : mark ∉ s) :
    cutAt mark s = (s, none) := by
  have hdrop : s.dropWhile (· != mark) = [] :=
    List.dropWhile_eq_nil_iff.2 fun c hc => bne_iff_ne.2 fun heq => h (heq ▸ hc)
  unfold cutAt
  rw [hdrop]

/-- What is put behind a text with a mark ends up behind the mark. -/
theorem cutAt_append_of_mem {mark : Char} {s : List Char} (h : mark ∈ s) (t : List Char) :
    ∃ behind, cutAt mark s = (s.takeWhile (· != mark), some behind) ∧
      cutAt mark (s ++ t) = (s.takeWhile (· != mark), some (behind ++ t)) := by
  cases hs : s.dropWhile (· != mark) with
  | nil => exact absurd (List.dropWhile_eq_nil_iff.1 hs mark h) (by simp)
  | cons c behind =>
    have hdrop : (s ++ t).dropWhile (· != mark) = c :: (behind ++ t) := by
      rw [List.dropWhile_append, hs]
      rfl
    have htake : (s ++ t).takeWhile (· != mark) = s.takeWhile (· != mark) := by
      rw [List.takeWhile_append, if_neg]
      intro hlength
      have hall := (List.takeWhile_prefix _).eq_of_length hlength
      have := List.takeWhile_eq_self_iff.1 hall mark h
      simp at this
    refine ⟨behind, ?_, ?_⟩
    · unfold cutAt
      rw [hs]
    · unfold cutAt
      rw [hdrop, htake]

/-! ## Authorities -/

/-- A host whose name is looked up is not empty. -/
theorem webHost_ne_empty {s : List Char} {h : Host} (hs : webHost s = .ok h) : h ≠ .name [] := by
  unfold webHost at hs
  split at hs
  · unfold bracketedHost at hs
    split at hs
    · split at hs <;> cases hs
      exact Host.noConfusion
    · cases hs
  · split at hs
    · cases hs
    · cases hs
    · next name hname _ =>
      split at hs
      · split at hs <;> cases hs
        exact Host.noConfusion
      · cases hs
        rintro heq
        cases heq
        contradiction

/-- The parts of an authority whose host is looked up. -/
structure ReadsAs (usual : Option Nat) (s : List Char) (a : Authority) (rest : List Char) : Prop where
  nonempty : (cutHost false (cutCredentials s).2).1 ≠ []
  host : webHost (cutHost false (cutCredentials s).2).1 = .ok a.host
  port : readPort usual (cutHost false (cutCredentials s).2).2 = .ok (a.port, rest)
  username : a.username = Percent.encode Percent.inCredentials
    (cutAt ':' ((cutCredentials s).1.getD [])).1
  password : a.password = Percent.encode Percent.inCredentials
    ((cutAt ':' ((cutCredentials s).1.getD [])).2.getD [])

/-- An authority is read part by part, whether or not it is alone. -/
theorem readAuthority_eq_ok_iff {usual : Option Nat} (husual : usual.isSome = true) (alone : Bool)
    {s : List Char} {a : Authority} {rest : List Char} :
    readAuthority usual alone s = .ok (a, rest) ↔ ReadsAs usual s a rest := by
  unfold readAuthority
  simp only [husual, bind, Except.bind, pure, Except.pure, throw, throwThe,
    MonadExceptOf.throw, Bool.true_and, if_true]
  constructor
  · intro h
    split at h
    · cases h
    · split at h
      · cases h
      · next hne =>
        split at h
        · cases h
        · next host hhost =>
          split at h
          · cases h
          · split at h
            · cases h
            · next port hport =>
              cases h
              exact ⟨fun hnil => hne (List.isEmpty_iff.2 hnil), hhost, hport, rfl, rfl⟩
  · rintro ⟨hne, hhost, hport, huser, hpassword⟩
    rw [if_neg, if_neg fun h => hne (List.isEmpty_iff.1 h), hhost]
    · dsimp only
      rw [if_neg fun h => webHost_ne_empty hhost h.1, hport, ← huser, ← hpassword]
    · rintro ⟨-, hempty, -⟩
      rw [List.isEmpty_iff.1 hempty] at hne
      exact hne rfl

theorem ReadsAs.unique {usual : Option Nat} (husual : usual.isSome = true) {s rest rest' : List Char}
    {a a' : Authority} (h : ReadsAs usual s a rest) (h' : ReadsAs usual s a' rest') : a = a' := by
  have hread := (readAuthority_eq_ok_iff husual true).2 h
  rw [(readAuthority_eq_ok_iff husual true).2 h'] at hread
  exact (Prod.mk.inj (Except.ok.inj hread)).1.symm

theorem cutHost_append (inside : Bool) (s : List Char) :
    (cutHost inside s).1 ++ (cutHost inside s).2 = s := by
  induction s generalizing inside with
  | nil => rfl
  | cons c s ih =>
    unfold cutHost
    split
    · rfl
    · exact congrArg (c :: ·) (ih _)

/-- What is behind a host is its port. -/
theorem cutHost_snd (inside : Bool) (s : List Char) :
    (cutHost inside s).2 = [] ∨ ∃ digits, (cutHost inside s).2 = ':' :: digits := by
  induction s generalizing inside with
  | nil => exact Or.inl rfl
  | cons c s ih =>
    unfold cutHost
    split
    · next hc =>
      rw [Bool.and_eq_true] at hc
      rw [eq_of_beq hc.1]
      exact Or.inr ⟨s, rfl⟩
    · exact ih _

theorem cutCredentials_subset {s : List Char} {c : Char} (h : c ∈ (cutCredentials s).2) : c ∈ s := by
  unfold cutCredentials at h
  dsimp only at h
  split at h
  · exact List.mem_reverse.1 ((List.takeWhile_prefix _).subset (List.mem_reverse.1 h))
  · exact h

/-- Behind the digits of a port nothing may follow but a backslash. -/
theorem readPort_of_ok {usual : Option Nat} {digits rest : List Char} {port : Option Nat}
    (h : readPort usual (':' :: digits) = .ok (port, rest)) :
    rest = digits.dropWhile Text.isDecimal ∧ (rest = [] ∨ rest.head? = some '\\') := by
  have h : (if (!(digits.dropWhile Text.isDecimal).isEmpty &&
      (digits.dropWhile Text.isDecimal).head? != some '\\') = true then _ else _) = _ := h
  split at h
  · cases h
  · next hcond =>
    have hcases : digits.dropWhile Text.isDecimal = [] ∨
        (digits.dropWhile Text.isDecimal).head? = some '\\' := by
      simp only [Bool.and_eq_true, Bool.not_eq_true', List.isEmpty_eq_false_iff, bne_iff_ne,
        not_and, not_not] at hcond
      exact or_iff_not_imp_left.2 hcond
    split at h
    · cases h
      exact ⟨rfl, hcases⟩
    · split at h
      · cases h
        exact ⟨rfl, hcases⟩
      · cases h

/-- A port that is read leaves nothing over but what a backslash starts. -/
theorem readPort_rest {usual : Option Nat} {s rest : List Char} {port : Option Nat}
    (h : readPort usual s = .ok (port, rest)) (hs : s = [] ∨ ∃ digits, s = ':' :: digits)
    (hslash : '\\' ∉ s) : rest = [] := by
  rcases hs with rfl | ⟨digits, rfl⟩
  · cases h
    rfl
  · obtain ⟨heq, hnil | hhead⟩ := readPort_of_ok h
    · exact hnil
    · exfalso
      have hin : '\\' ∈ rest := List.mem_of_head? hhead
      rw [heq] at hin
      exact hslash (List.mem_cons_of_mem _ ((List.dropWhile_suffix _).subset hin))

theorem ReadsAs.rest_eq_nil {usual : Option Nat} {s rest : List Char} {a : Authority}
    (h : ReadsAs usual s a rest) (hs : '\\' ∉ s) : rest = [] := by
  refine readPort_rest h.port (cutHost_snd _ _) fun hin => hs ?_
  refine cutCredentials_subset ?_
  rw [← cutHost_append false (cutCredentials s).2]
  exact List.mem_append_right _ hin

theorem ReadsAs.ne_nil {usual : Option Nat} {s rest : List Char} {a : Authority}
    (h : ReadsAs usual s a rest) : s ≠ [] := by
  rintro rfl
  exact h.nonempty rfl

/-! ## URLs of the web -/

def IsWebScheme (scheme : List Char) : Prop :=
  scheme = ['h', 't', 't', 'p'] ∨ scheme = ['h', 't', 't', 'p', 's']

theorem isWeb_iff (u : Url) : u.isWeb = true ↔ IsWebScheme u.scheme := by
  simp [isWeb, IsWebScheme]

theorem IsWebScheme.usualPort {scheme : List Char} (h : IsWebScheme scheme) :
    (usualPort? scheme).isSome = true ∧ namesFiles scheme = false := by
  rcases h with rfl | rfl <;> decide

/-- No slash of either kind. -/
def isInside (c : Char) : Bool :=
  !isSlash c

/-- The authority of what is behind a scheme. -/
def hostPart (s : List Char) : List Char :=
  (s.dropWhile isSlash).takeWhile isInside

/-- The path of what is behind a scheme. -/
def pathPart (s : List Char) : List Char :=
  (s.dropWhile isSlash).dropWhile isInside

theorem backslash_notMem_hostPart (s : List Char) : '\\' ∉ hostPart s := by
  intro h
  have := List.mem_takeWhile_imp h
  cases this

theorem startsWithSlash_pathPart (s : List Char) : StartsWithSlash (pathPart s) := by
  intro c hc
  have hhead := List.head?_dropWhile_not isInside (s.dropWhile isSlash)
  have hc : ((s.dropWhile isSlash).dropWhile isInside).head? = some c := hc
  rw [hc] at hhead
  simpa [isInside] using hhead

theorem dropWhile_slashes_append {s : List Char} (hs : hostPart s ≠ []) (t : List Char) :
    (s ++ t).dropWhile isSlash = s.dropWhile isSlash ++ t := by
  rw [List.dropWhile_append, if_neg]
  intro hempty
  refine hs ?_
  rw [hostPart, List.isEmpty_iff.1 hempty]
  rfl

/-- All of a text is in front of the path exactly if there is no path. -/
theorem takeWhile_length_eq_iff (s : List Char) :
    (s.takeWhile isInside).length = s.length ↔ s.dropWhile isInside = [] := by
  rw [List.dropWhile_eq_nil_iff, ← List.takeWhile_eq_self_iff]
  exact ⟨(List.takeWhile_prefix isInside).eq_of_length, fun h => congrArg _ h⟩

theorem hostPart_append {s : List Char} (hs : hostPart s ≠ []) (t : List Char) :
    hostPart (s ++ t) =
      if pathPart s = [] then hostPart s ++ t.takeWhile isInside else hostPart s := by
  unfold hostPart pathPart
  rw [dropWhile_slashes_append hs, List.takeWhile_append]
  by_cases hpath : (s.dropWhile isSlash).dropWhile isInside = []
  · have hlength := (takeWhile_length_eq_iff _).2 hpath
    rw [if_pos hpath, if_pos hlength, (List.takeWhile_prefix isInside).eq_of_length hlength]
  · rw [if_neg hpath, if_neg fun hlength => hpath ((takeWhile_length_eq_iff _).1 hlength)]

theorem pathPart_append {s : List Char} (hs : hostPart s ≠ []) (t : List Char) :
    pathPart (s ++ t) =
      if pathPart s = [] then t.dropWhile isInside else pathPart s ++ t := by
  unfold pathPart
  rw [dropWhile_slashes_append hs, List.dropWhile_append]
  exact if_congr List.isEmpty_iff rfl rfl

/-- What starts with a slash belongs to the path. -/
theorem parts_append_slash {s t : List Char} (hs : hostPart s ≠ []) (ht : StartsWithSlash t) :
    hostPart (s ++ t) = hostPart s ∧ pathPart (s ++ t) = pathPart s ++ t := by
  have htake : t.takeWhile isInside = [] ∧ t.dropWhile isInside = t := by
    cases t with
    | nil => exact ⟨rfl, rfl⟩
    | cons c t =>
      have hc : isInside c = false := by rw [isInside, ht c rfl]; rfl
      rw [List.takeWhile_cons, List.dropWhile_cons, hc]
      exact ⟨rfl, rfl⟩
  rw [hostPart_append hs, pathPart_append hs, htake.1, htake.2, List.append_nil]
  constructor
  · exact ite_self _
  · split
    · next hpath => rw [hpath, List.nil_append]
    · rfl

/-- Slashes make no host. -/
theorem hostPart_ne_nil {s : List Char} {k : Nat} (h : hostPart (s ++ List.replicate k '/') ≠ []) :
    hostPart s ≠ [] := by
  intro hs
  have hslashes : s.dropWhile isSlash = [] := by
    cases hdrop : s.dropWhile isSlash with
    | nil => rfl
    | cons c rest =>
      have hhead := List.head?_dropWhile_not isSlash s
      rw [hdrop] at hhead
      have hc : isInside c = true := by rw [isInside, show isSlash c = false from hhead]; rfl
      rw [hostPart, hdrop, List.takeWhile_cons, if_pos hc] at hs
      cases hs
  refine h ?_
  have hall : (s ++ List.replicate k '/').dropWhile isSlash = [] := by
    refine List.dropWhile_eq_nil_iff.2 fun c hc => ?_
    rcases List.mem_append.1 hc with hc | hc
    · exact List.dropWhile_eq_nil_iff.1 hslashes c hc
    · rw [List.eq_of_mem_replicate hc]
      rfl
  rw [hostPart, hall]
  rfl

/-- Behind a scheme of the web stand an authority and a path. -/
theorem readHierarchy_web {scheme : List Char} (hweb : IsWebScheme scheme) {s : List Char}
    (alone : Bool) {authority : Option Authority} {path : Path} :
    readHierarchy scheme s alone = .ok (authority, path) ↔
      ∃ a, ReadsAs (usualPort? scheme) (hostPart s) a [] ∧ authority = some a ∧
        path = segmentPath true (pathPart s) := by
  unfold readHierarchy
  rw [hweb.usualPort.2, hweb.usualPort.1]
  simp only [bind, Except.bind, pure, Except.pure, if_true, Bool.false_eq_true, if_false]
  constructor
  · intro h
    split at h
    · cases h
    · next read hread =>
      obtain ⟨a, rest⟩ := read
      have hreads := (readAuthority_eq_ok_iff hweb.usualPort.1 _).1 hread
      obtain rfl := hreads.rest_eq_nil (backslash_notMem_hostPart s)
      cases h
      exact ⟨a, hreads, rfl, rfl⟩
  · rintro ⟨a, hreads, rfl, rfl⟩
    have hread := (readAuthority_eq_ok_iff hweb.usualPort.1
      (alone && !(s.dropWhile isSlash).any isSlash)).2 hreads
    have hread : readAuthority _ _ (List.takeWhile (fun c => !isSlash c) _) = _ := hread
    rw [hread]
    rfl

/-- What is read behind a scheme, without query and fragment. -/
def hierarchyText (rest : List Char) : List Char :=
  (cutAt '?' (cutAt '#' rest).1).1

def queryText? (rest : List Char) : Option (List Char) :=
  (cutAt '?' (cutAt '#' rest).1).2

/-- The parts of a URL, given those of its text. -/
theorem parse_parts {s : String} {scheme rest : List Char}
    (hscheme : scheme? (cleaned s.toList) = some (scheme, rest)) {u : Url} (h : parse s = .ok u) :
    u.scheme = scheme ∧
      readHierarchy scheme (hierarchyText rest) ((cutAt '#' rest).2.isNone && (queryText? rest).isNone) =
        .ok (u.authority, u.path) ∧
      u.query = (queryText? rest).map
        (Percent.encode (Percent.inQuery ((usualPort? scheme).isSome || namesFiles scheme))) ∧
      u.fragment = (cutAt '#' rest).2.map (Percent.encode Percent.inFragment) := by
  unfold parse at h
  rw [hscheme] at h
  have h : (readHierarchy scheme (hierarchyText rest)
    ((cutAt '#' rest).2.isNone && (queryText? rest).isNone) >>= _) = _ := h
  cases hread : readHierarchy scheme (hierarchyText rest)
      ((cutAt '#' rest).2.isNone && (queryText? rest).isNone) with
  | error fault =>
    rw [hread] at h
    cases h
  | ok read =>
    rw [hread] at h
    cases h
    exact ⟨rfl, rfl, rfl, rfl⟩

theorem parse_scheme {s : String} {u : Url} (h : parse s = .ok u) :
    ∃ rest, scheme? (cleaned s.toList) = some (u.scheme, rest) := by
  cases hscheme : scheme? (cleaned s.toList) with
  | none =>
    rw [parse_of_no_scheme hscheme] at h
    cases h
  | some read =>
    rw [(parse_parts hscheme h).1]
    exact ⟨_, rfl⟩

/-- A text whose scheme is one of the web is read as an authority and a path, if neither a query nor
a fragment follows. -/
theorem parse_web {s : String} {scheme rest : List Char}
    (hscheme : scheme? (cleaned s.toList) = some (scheme, rest)) (hweb : IsWebScheme scheme)
    (hquery : '?' ∉ rest) (hfragment : '#' ∉ rest) {u : Url} :
    parse s = .ok u ↔ ∃ a, ReadsAs (usualPort? scheme) (hostPart rest) a [] ∧
      u = ⟨scheme, some a, segmentPath true (pathPart rest), none, none⟩ := by
  have hparse : parse s = readHierarchy scheme rest true >>= fun read =>
      .ok ⟨scheme, read.1, read.2, none, none⟩ := by
    unfold parse
    rw [hscheme]
    dsimp only
    rw [cutAt_of_notMem hfragment]
    dsimp only
    rw [cutAt_of_notMem hquery]
    rfl
  rw [hparse]
  constructor
  · intro h
    cases hread : readHierarchy scheme rest true with
    | error fault =>
      rw [hread] at h
      cases h
    | ok read =>
      rw [hread] at h
      cases h
      obtain ⟨a, hreads, hauthority, hpath⟩ := (readHierarchy_web hweb true).1 hread
      refine ⟨a, hreads, ?_⟩
      rw [hauthority, hpath]
  · rintro ⟨a, hreads, rfl⟩
    rw [(readHierarchy_web hweb true).2 ⟨a, hreads, rfl, rfl⟩]
    rfl

/-- Behind a fragment, nothing belongs to the path. -/
theorem path_eq_of_fragment {s s' : String} {scheme rest t t' : List Char}
    (hs : scheme? (cleaned s.toList) = some (scheme, rest ++ t))
    (hs' : scheme? (cleaned s'.toList) = some (scheme, rest ++ t'))
    (hfragment : '#' ∈ rest) {u v : Url} (hu : parse s = .ok u) (hv : parse s' = .ok v) :
    v.path = u.path := by
  obtain ⟨-, hread, -⟩ := parse_parts hs hu
  obtain ⟨-, hread', -⟩ := parse_parts hs' hv
  obtain ⟨_, -, hcut⟩ := cutAt_append_of_mem hfragment t
  obtain ⟨_, -, hcut'⟩ := cutAt_append_of_mem hfragment t'
  rw [hierarchyText, hcut] at hread
  rw [hierarchyText, hcut'] at hread'
  have heq : (.ok (u.authority, u.path) : Except Fault _) = .ok (v.authority, v.path) :=
    hread.symm.trans hread'
  exact (Prod.mk.inj (Except.ok.inj heq)).2.symm

/-- A question mark starts a query, unless it is in a fragment. -/
theorem query_of_mem {s : String} {scheme rest : List Char}
    (hs : scheme? (cleaned s.toList) = some (scheme, rest)) (hquery : '?' ∈ rest)
    (hfragment : '#' ∉ rest) {u : Url} (hu : parse s = .ok u) : u.query ≠ none := by
  obtain ⟨behind, hcut, -⟩ := cutAt_append_of_mem hquery []
  have hread := (parse_parts hs hu).2.2.1
  rw [queryText?, cutAt_of_notMem hfragment] at hread
  dsimp only at hread
  rw [hread, hcut]
  exact Option.some_ne_none _

end Enrollment.Url

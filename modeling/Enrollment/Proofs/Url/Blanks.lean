import Enrollment.Proofs.Text.Utf8
import Enrollment.Proofs.Url.Extension
/-!
# Blanks behind a host

No host that is looked up ends in a blank or a control character: whatever way such a host is
written, the blank is still there when the labels of the name are checked. So an authority with blanks
behind it is none.

Results:
 1. `composed_concat`, `shownLabel?_concat`: a blank stays where it is, and no label has it.
 2. `webHost_blank`: a host with blanks behind it is refused.
 3. `not_readsAs_blank`: so is an authority.
-/

namespace Enrollment.Url

open Text (splitAtEach words)

/-! ## Labels -/

namespace Domain

/-- The marks of a line of composites are no blanks if they are none as they are written there. -/
theorem marks_of_line {line : List Char}
    (h : ((words line).map Composite.ofWord).all (fun p => 0x20 < p.mark) = true) :
    ∀ p ∈ (words (String.ofList line).toList).map Composite.ofWord, 0x20 < p.mark := by
  rw [String.toList_ofList]
  intro p hp
  exact of_decide_eq_true (List.all_eq_true.1 h p hp)

/-- No mark is a blank. -/
theorem composites_mark : ∀ p ∈ composites, 0x20 < p.mark := by
  refine List.forall_mem_flatMap.2 ?_
  repeat refine List.forall_mem_cons.2 ⟨marks_of_line (by decide +kernel), ?_⟩
  exact List.forall_mem_nil _

theorem classOf_blank {c : Nat} (h : c ≤ 0x20) : classOf c = 0 :=
  if_pos (by omega)

/-- A blank is not joined with what is in front of it. -/
theorem compose?_blank {c : Nat} (h : c ≤ 0x20) (base : Nat) : compose? base c = none := by
  unfold compose?
  rw [if_neg (by omega), if_neg (by omega), Option.map_eq_none_iff]
  refine List.find?_eq_none.2 fun p hp hcond => ?_
  have hmark := composites_mark p hp
  rw [eq_of_beq (Bool.and_eq_true_iff.1 hcond).2] at hmark
  omega

theorem insertMark_concat {w : Nat} (h : w ≤ 0x20) (c : Nat) (s : List Nat) :
    insertMark c (s ++ [w]) = insertMark c s ++ [w] := by
  induction s with
  | nil =>
    have hclass := classOf_blank h
    show (if _ then _ else _) = _
    rw [if_neg (by omega)]
    rfl
  | cons d s ih =>
    rw [List.cons_append, insertMark, insertMark]
    split
    · rw [ih, List.cons_append]
    · rfl

theorem composeFrom_concat {w : Nat} (h : w ≤ 0x20) (base : Nat) (between : List Nat) (last : Nat)
    (s : List Nat) :
    composeFrom base between last (s ++ [w]) = composeFrom base between last s ++ [w] := by
  induction s generalizing base between last with
  | nil =>
    have hnone : (if between.isEmpty || last < classOf w then compose? base w else none) = none := by
      split
      · exact compose?_blank h base
      · rfl
    rw [List.nil_append, composeFrom.eq_2, hnone, classOf_blank h]
    rfl
  | cons c s ih =>
    rw [List.cons_append, composeFrom, composeFrom]
    split
    · exact ih _ _ _
    · split
      · rw [ih, ← List.append_assoc]
      · exact ih _ _ _

theorem composeAll_concat {w : Nat} (h : w ≤ 0x20) (s : List Nat) :
    composeAll (s ++ [w]) = composeAll s ++ [w] := by
  induction s with
  | nil =>
    show (if _ then _ else _) = _
    rw [if_pos (classOf_blank h)]
    rfl
  | cons c s ih =>
    rw [List.cons_append, composeAll, composeAll]
    split
    · exact composeFrom_concat h _ _ _ _
    · rw [ih, List.cons_append]

/-- A blank at the end of a text stays there. -/
theorem composed_concat {w : Char} (h : w.toNat ≤ 0x20) (s : List Char) :
    composed (s ++ [w]) = composed s ++ [w] := by
  have hparts : (s ++ [w]).flatMap (fun c => decompose 4 c.toNat) =
      s.flatMap (fun c => decompose 4 c.toNat) ++ [w.toNat] := by
    rw [List.flatMap_append]
    show _ ++ (decompose 4 w.toNat ++ []) = _
    rw [decompose_ascii (by omega)]
    rfl
  have hordered : ∀ parts : List Nat,
      (parts ++ [w.toNat]).foldr insertMark [] = parts.foldr insertMark [] ++ [w.toNat] := by
    intro parts
    induction parts with
    | nil => rfl
    | cons c parts ih =>
      rw [List.cons_append, List.foldr_cons, List.foldr_cons, ih, insertMark_concat h]
  unfold composed
  rw [hparts]
  dsimp only
  rw [hordered, composeAll_concat h, List.map_append, List.map_singleton, Char.ofNat_toNat]

theorem mapChars_append (s t : List Char) :
    mapChars (s ++ t) = (mapChars s).bind fun s' => (mapChars t).map (s' ++ ·) := by
  induction s with
  | nil =>
    show mapChars t = (mapChars t).map id
    rw [Option.map_id_fun, id]
  | cons c s ih =>
    rw [List.cons_append, mapChars, mapChars, ih]
    cases mapChar c with
    | none => rfl
    | some cs =>
      cases mapChars s with
      | none => rfl
      | some s' =>
        cases mapChars t with
        | none => rfl
        | some t' =>
          show some (cs ++ (s' ++ t')) = some ((cs ++ s') ++ t')
          rw [List.append_assoc]

theorem mapChars_blank {s : List Char} (h : IsBlank s) : mapChars s = some s := by
  induction s with
  | nil => rfl
  | cons c s ih =>
    have hc := h c List.mem_cons_self
    have hlower : c.toLower = c := by
      unfold Char.toLower
      split
      · next hupper =>
        have h1 : 0x41 ≤ c.toNat := hupper.1
        omega
      · rfl
    have hchar : mapChar c = some [c] := by
      unfold mapChar
      rw [if_pos (by omega), hlower]
    rw [mapChars, hchar, ih fun d hd => h d (List.mem_cons_of_mem c hd)]
    rfl

end Domain

/-! ## Labels with ASCII alone -/

namespace Punycode

theorem digitValue?_blank {w : Char} (h : w.toNat ≤ 0x20) : digitValue? w = none := by
  unfold digitValue?
  dsimp only
  rw [if_neg (by omega), if_neg (by omega), if_neg (by omega)]

/-- What is no digit is not read. -/
theorem mem_of_readDistance {w : Char} (hw : digitValue? w = none) {bias position weight : Nat}
    {distance n : Nat} {s rest : List Char}
    (h : readDistance bias position weight distance s = some (n, rest)) (hin : w ∈ s) :
    w ∈ rest := by
  induction s generalizing position weight distance with
  | nil => cases hin
  | cons c s ih =>
    have hne : ∀ d, digitValue? c = some d → w ∈ s := by
      intro d hd
      rcases List.mem_cons.1 hin with rfl | hin
      · rw [hw] at hd
        cases hd
      · exact hin
    unfold readDistance at h
    split at h
    · cases h
    · next d hd =>
      dsimp only at h
      split at h
      · cases h
        exact hne d hd
      · exact ih h (hne d hd)

/-- Nothing is put into a label by a text with a character that is no digit. -/
theorem insertAll_none {w : Char} (hw : digitValue? w = none) (codePoint position bias : Nat)
    (label s : List Char) (hin : w ∈ s) : insertAll codePoint position bias label s = none := by
  unfold insertAll
  split
  · next hempty =>
    rw [List.isEmpty_iff.1 hempty] at hin
    cases hin
  · split
    · rfl
    · next distance rest hread =>
      dsimp only
      split
      · exact insertAll_none hw _ _ _ _ rest (mem_of_readDistance hw hread hin)
      · rfl
termination_by s.length
decreasing_by exact readDistance_length ‹_›

/-- What is in front of a hyphen at most, a blank at the end is behind it. -/
theorem decode_concat {w : Char} (h : w.toNat ≤ 0x20) (s : List Char) :
    decode (s ++ [w]) = none := by
  have hbehind : w ∈ ((s ++ [w]).reverse.takeWhile (· != '-')).reverse := by
    have hne : (w != '-') = true := by
      refine bne_iff_ne.2 ?_
      rintro rfl
      exact absurd h (by decide)
    rw [List.reverse_append, List.mem_reverse]
    show w ∈ List.takeWhile _ (w :: s.reverse)
    rw [List.takeWhile_cons, if_pos hne]
    exact List.mem_cons_self
  have hdigits : w ∈ (splitAtLastHyphen (s ++ [w])).2 := by
    unfold splitAtLastHyphen
    dsimp only
    split
    · exact hbehind
    · exact List.mem_concat_self
  unfold decode
  dsimp only
  split
  · exact insertAll_none (digitValue?_blank h) _ _ _ _ _ hdigits
  · rfl

end Punycode

namespace Domain

/-- No label ends in a blank. -/
theorem shownLabel?_concat {w : Char} (h : w.toNat ≤ 0x20) (label : List Char) :
    shownLabel? (label ++ [w]) = none := by
  unfold shownLabel?
  split
  · next hmark =>
    -- The mark is in front of the blank.
    have hdrop : (label ++ [w]).drop asciiMark.length = label.drop asciiMark.length ++ [w] := by
      refine List.drop_append_of_le_length ?_
      obtain ⟨rest, hrest⟩ := List.isPrefixOf_iff_prefix.1 hmark
      rcases List.eq_nil_or_concat' rest with rfl | ⟨front, c, rfl⟩
      · have hlast := congrArg List.getLast? hrest
        rw [List.append_nil, List.getLast?_concat] at hlast
        obtain rfl : '-' = w := Option.some.inj hlast
        exact absurd h (by decide)
      · rw [← List.append_assoc] at hrest
        rw [← (List.append_inj' hrest rfl).1, List.length_append]
        exact Nat.le_add_right _ _
    rw [hdrop, Punycode.decode_concat h]
  · rw [if_neg]
    intro hformed
    have hall : ((label ++ [w]).all fun c => isKept c && !isForbidden c) = true := by
      simp only [isWellFormed, Bool.and_eq_true] at hformed
      exact hformed.1.1.1
    have hforbidden : isForbidden w = true := by
      simp [isForbidden, h]
    have hw := List.all_eq_true.1 hall w List.mem_concat_self
    rw [hforbidden, Bool.and_comm] at hw
    cases hw

/-- No name ends in a blank. -/
theorem toAscii?_concat {w : Char} (h : w.toNat ≤ 0x20) (s : List Char) :
    toAscii? (s ++ [w]) = none := by
  have hblank : IsBlank [w] := by
    intro c hc
    rw [List.mem_singleton.1 hc]
    exact h
  unfold toAscii?
  rw [mapChars_append, mapChars_blank hblank]
  cases mapChars s with
  | none => rfl
  | some mapped =>
    have hpoint : '.' ∉ [w] := by
      intro hin
      rw [← List.mem_singleton.1 hin] at h
      exact absurd h (by decide)
    obtain ⟨labels, label, -, hsplit⟩ := splitAtEach_append_of_notMem (composed mapped) hpoint
    have hshown : (splitAtEach '.' (composed (mapped ++ [w]))).mapM shownLabel? = none := by
      rw [composed_concat h, hsplit, List.mapM_append]
      cases labels.mapM shownLabel? with
      | none => rfl
      | some shown =>
        rw [List.mapM_cons, shownLabel?_concat h]
        rfl
    show ((splitAtEach '.' (composed (mapped ++ [w]))).mapM shownLabel?).bind _ = none
    rw [hshown]
    rfl

end Domain

/-! ## Bytes -/

namespace Percent

/-- Two digits behind a percent sign. -/
def IsEscape (s : Text.Bytes) : Prop :=
  ∃ a b rest high low, s = 0x25 :: a :: b :: rest ∧
    Text.hexValue? (Char.ofNat a.toNat) = some high ∧ Text.hexValue? (Char.ofNat b.toNat) = some low

theorem decode_cons {p : UInt8} {rest : Text.Bytes} (h : ¬IsEscape (p :: rest)) :
    decode (p :: rest) = p :: decode rest := by
  rcases rest with _ | ⟨a, _ | ⟨b, rest⟩⟩
  · rfl
  · rfl
  · rw [decode.eq_2]
    split
    · next high low ha hb =>
      refine if_neg ?_
      rintro rfl
      exact h ⟨a, b, rest, high, low, rfl, ha, hb⟩
    · rfl

/-- Bytes that are neither percent signs nor digits. -/
def AreBare (t : Text.Bytes) : Prop :=
  ∀ b ∈ t, b ≠ 0x25 ∧ Text.hexValue? (Char.ofNat b.toNat) = none

theorem decode_bare {t : Text.Bytes} (ht : AreBare t) : decode t = t := by
  induction t with
  | nil => rfl
  | cons b t ih =>
    rw [decode_cons, ih fun c hc => ht c (List.mem_cons_of_mem b hc)]
    rintro ⟨_, _, _, _, _, heq, -⟩
    exact (ht b List.mem_cons_self).1 (List.cons_eq_cons.1 heq).1

/-- An escape has both its digits in front of bare bytes. -/
theorem not_isEscape_append {t : Text.Bytes} (ht : AreBare t) {p : UInt8} {s : Text.Bytes}
    (h : ¬IsEscape (p :: s)) : ¬IsEscape (p :: (s ++ t)) := by
  rintro ⟨a, b, rest, high, low, heq, ha, hb⟩
  obtain ⟨rfl, hst⟩ := List.cons_eq_cons.1 heq
  rcases s with _ | ⟨c, _ | ⟨d, s⟩⟩
  · have hin : a ∈ t := by
      rw [show t = a :: b :: rest from hst]
      exact List.mem_cons_self
    rw [(ht a hin).2] at ha
    cases ha
  · have hin : b ∈ t := by
      rw [show t = b :: rest from (List.cons_eq_cons.1 hst).2]
      exact List.mem_cons_self
    rw [(ht b hin).2] at hb
    cases hb
  · obtain ⟨hc, hdst⟩ := List.cons_eq_cons.1 hst
    obtain ⟨hd, -⟩ := List.cons_eq_cons.1 hdst
    exact h ⟨c, d, s, high, low, rfl, hc ▸ ha, hd ▸ hb⟩

theorem decode_append {t : Text.Bytes} (ht : AreBare t) (s : Text.Bytes) :
    decode (s ++ t) = decode s ++ t := by
  induction s using decode.induct with
  | case1 => exact decode_bare ht
  | case2 a b rest high low hb ha ih =>
    have hstep : ∀ rest, decode (0x25 :: a :: b :: rest) =
        (high * 16 + low).toUInt8 :: decode rest := by
      intro rest
      rw [decode.eq_2, ha, hb]
      exact if_pos rfl
    show decode (0x25 :: a :: b :: (rest ++ t)) = _
    rw [hstep, hstep, ih]
    rfl
  | case3 p a b rest high low hb ha hp ih =>
    have hnot : ¬IsEscape (p :: a :: b :: rest) := by
      rintro ⟨_, _, _, _, _, heq, -⟩
      exact hp (List.cons_eq_cons.1 heq).1
    show decode (p :: (a :: b :: rest ++ t)) = _
    rw [decode_cons (not_isEscape_append ht hnot), decode_cons hnot, ih]
    rfl
  | case4 p a b rest hdigits ih =>
    have hnot : ¬IsEscape (p :: a :: b :: rest) := by
      rintro ⟨_, _, _, _, _, heq, ha, hb⟩
      cases heq
      exact hdigits _ _ ha hb
    show decode (p :: (a :: b :: rest ++ t)) = _
    rw [decode_cons (not_isEscape_append ht hnot), decode_cons hnot, ih]
    rfl
  | case5 p rest hshort ih =>
    have hnot : ¬IsEscape (p :: rest) := by
      rintro ⟨_, _, _, _, _, heq, -⟩
      cases heq
      exact hshort _ _ _ rfl
    show decode (p :: (rest ++ t)) = _
    rw [decode_cons (not_isEscape_append ht hnot), decode_cons hnot, ih]
    rfl

end Percent

/-! ## Hosts -/

theorem areBare_blank {blank : List Char} (h : IsBlank blank) :
    Percent.AreBare (Text.encodeUtf8 blank) := by
  intro b hb
  obtain ⟨c, hc, hb⟩ := List.mem_flatMap.1 hb
  have hchar : Text.encodeChar c = [c.toNat.toUInt8] := if_pos (by have := h c hc; omega)
  rw [hchar, List.mem_singleton] at hb
  have hall : ∀ n < 0x21, n.toUInt8 ≠ 0x25 ∧
      Text.hexValue? (Char.ofNat n.toUInt8.toNat) = none := by decide
  rw [hb]
  exact hall _ (by have := h c hc; omega)

/-- A host that is read stands in brackets, or is a name that has a form to be looked up. -/
theorem webHost_cases {s : List Char} {host : Host} (h : webHost s = .ok host) :
    (∃ rest, s = '[' :: rest ∧ bracketedHost rest = .ok host) ∨
      (∀ rest, s ≠ '[' :: rest) ∧
        ∃ decoded, Text.decodeUtf8? (Percent.decode (Text.encodeUtf8 s)) = some decoded ∧
          Domain.toAscii? decoded ≠ none := by
  unfold webHost at h
  split at h
  · next rest => exact Or.inl ⟨rest, rfl, h⟩
  · next hopen =>
    refine Or.inr ⟨hopen, ?_⟩
    split at h
    · cases h
    · next hname =>
      obtain ⟨decoded, hdecoded, hname⟩ := Option.bind_eq_some_iff.1 hname
      exact ⟨decoded, hdecoded, Option.ne_none_iff_exists'.2 ⟨_, hname⟩⟩
    · next hname =>
      obtain ⟨decoded, hdecoded, hname⟩ := Option.bind_eq_some_iff.1 hname
      exact ⟨decoded, hdecoded, Option.ne_none_iff_exists'.2 ⟨_, hname⟩⟩

/-- A host with blanks behind it is refused. -/
theorem webHost_blank {s blank : List Char} {host : Host} (hs : webHost s = .ok host)
    (hblank : IsBlank blank) (hne : blank ≠ []) (other : Host) :
    webHost (s ++ blank) ≠ .ok other := by
  obtain ⟨blanks, w, rfl⟩ := (List.eq_nil_or_concat' blank).resolve_left hne
  have hw : w.toNat ≤ 0x20 := hblank w List.mem_concat_self
  intro h
  rcases webHost_cases h with ⟨rest, hrest, hbracket⟩ | ⟨hopen, decoded, hdecoded, hname⟩
  · -- The brackets are not closed at the end.
    have hlast := congrArg List.getLast? hrest
    rw [← List.append_assoc, List.getLast?_concat] at hlast
    unfold bracketedHost at hbracket
    split at hbracket
    · next hclosed =>
      rw [List.getLast?_cons, hclosed] at hlast
      cases Option.some.inj hlast
      exact absurd hw (by decide)
    · cases hbracket
  · rcases webHost_cases hs with ⟨rest, rfl, -⟩ | ⟨-, decoded', hdecoded', -⟩
    · exact hopen _ rfl
    · rw [Text.encodeUtf8_append, Percent.decode_append (areBare_blank hblank),
        Text.decodeUtf8?_append hdecoded', Text.decodeUtf8?_encodeUtf8] at hdecoded
      obtain rfl := Option.some.inj hdecoded
      refine hname ?_
      show Domain.toAscii? (decoded' ++ (blanks ++ [w])) = none
      rw [← List.append_assoc]
      exact Domain.toAscii?_concat hw _

/-- Blanks behind a text that is cut into host and port. -/
theorem cutHost_append_blank (inside : Bool) (s : List Char) {blank : List Char}
    (hblank : IsBlank blank) :
    cutHost inside (s ++ blank) =
      if (cutHost inside s).2 = [] then ((cutHost inside s).1 ++ blank, [])
      else ((cutHost inside s).1, (cutHost inside s).2 ++ blank) := by
  have hne : ∀ c ∈ blank, c ≠ ':' ∧ c ≠ '[' ∧ c ≠ ']' := by
    intro c hc
    refine ⟨?_, ?_, ?_⟩ <;>
      · rintro rfl
        exact absurd (hblank _ hc) (by decide)
  have hbase : ∀ (inside : Bool) (t : List Char), (∀ c ∈ t, c ≠ ':' ∧ c ≠ '[' ∧ c ≠ ']') →
      cutHost inside t = (t, []) := by
    intro inside t ht
    induction t generalizing inside with
    | nil => rfl
    | cons c t ih =>
      have hc := ht c List.mem_cons_self
      unfold cutHost
      rw [ih _ fun d hd => ht d (List.mem_cons_of_mem c hd), if_neg]
      intro hcolon
      exact hc.1 (eq_of_beq (Bool.and_eq_true_iff.1 hcolon).1)
  induction s generalizing inside with
  | nil => exact hbase inside blank hne
  | cons c s ih =>
    rw [List.cons_append, cutHost, cutHost]
    split
    · rfl
    · dsimp only
      rw [ih]
      generalize cutHost _ s = cut
      by_cases hcut : cut.2 = []
      · rw [if_pos hcut, if_pos hcut]
        rfl
      · rw [if_neg hcut, if_neg hcut]

theorem cutCredentials_append_blank (s : List Char) {blank : List Char} (hblank : IsBlank blank) :
    cutCredentials (s ++ blank) = ((cutCredentials s).1, (cutCredentials s).2 ++ blank) := by
  have hall : ∀ c ∈ blank.reverse, (c != '@') = true := by
    intro c hc
    refine bne_iff_ne.2 ?_
    rintro rfl
    exact absurd (hblank _ (List.mem_reverse.1 hc)) (by decide)
  have hbehind : ((s ++ blank).reverse.takeWhile (· != '@')).reverse =
      (s.reverse.takeWhile (· != '@')).reverse ++ blank := by
    rw [List.reverse_append, List.takeWhile_append_of_pos hall, List.reverse_append,
      List.reverse_reverse]
  have hlength : ((s.reverse.takeWhile (· != '@')).reverse).length ≤ s.length := by
    have hprefix := (List.takeWhile_prefix (fun c => c != '@') (l := s.reverse)).length_le
    rw [List.length_reverse] at hprefix ⊢
    exact hprefix
  unfold cutCredentials
  rw [hbehind]
  simp only [List.length_append, Nat.add_lt_add_iff_right, Nat.add_sub_add_right]
  split
  · rw [List.take_append_of_le_length (by omega)]
  · rfl

/-- An authority with blanks behind it is refused. -/
theorem not_readsAs_blank {usual : Option Nat} {s blank : List Char} {a : Authority}
    (h : ReadsAs usual s a []) (hblank : IsBlank blank) (hne : blank ≠ [])
    (a' : Authority) (rest : List Char) : ¬ReadsAs usual (s ++ blank) a' rest := by
  intro h'
  have hhost := h'.host
  have hport := h'.port
  rw [cutCredentials_append_blank s hblank, cutHost_append_blank false _ hblank] at hhost hport
  by_cases hrest : (cutHost false (cutCredentials s).2).2 = []
  · rw [if_pos hrest] at hhost
    exact webHost_blank h.host hblank hne _ hhost
  · -- The blanks would belong to the port.
    rw [if_neg hrest] at hport
    obtain ⟨digits, hdigits⟩ := (cutHost_snd false (cutCredentials s).2).resolve_left hrest
    have hread := h.port
    rw [hdigits] at hport hread
    obtain ⟨hnil, -⟩ := readPort_of_ok hread
    have hport : readPort usual (':' :: (digits ++ blank)) = .ok (a'.port, rest) := hport
    obtain ⟨hleft, hcases⟩ := readPort_of_ok hport
    have hall := List.dropWhile_eq_nil_iff.1 hnil.symm
    rw [List.dropWhile_append_of_pos hall] at hleft
    obtain ⟨w, blanks, rfl⟩ := List.exists_cons_of_ne_nil hne
    have hw : w.toNat ≤ 0x20 := hblank w List.mem_cons_self
    have hdecimal : Text.isDecimal w = false := by
      have hlow : ¬ '0' ≤ w := by
        intro h0
        have h0 : 0x30 ≤ w.toNat := h0
        omega
      unfold Text.isDecimal Text.decimalValue?
      rw [if_neg fun hdigit => hlow hdigit.1]
      rfl
    have hdrop : (w :: blanks).dropWhile Text.isDecimal = w :: blanks := by
      rw [List.dropWhile_cons, hdecimal]
      rfl
    rw [hleft, hdrop] at hcases
    rcases hcases with hcases | hcases
    · cases hcases
    · cases Option.some.inj hcases
      exact absurd hw (by decide)

end Enrollment.Url

/-!
# Blank characters

The characters with the Unicode property White_Space, and cutting them off the ends of a text.

Main statements: a text is what trimming leaves of it between blanks (`eq_between_trim`,
`trim_between`).
-/

namespace Enrollment.Text

/-- The 25 code points with the property White_Space. -/
def isBlank (c : Char) : Bool :=
  let n := c.toNat
  (0x9 ≤ n && n ≤ 0xd) || n == 0x20 || n == 0x85 || n == 0xa0 || n == 0x1680 ||
    (0x2000 ≤ n && n ≤ 0x200a) || n == 0x2028 || n == 0x2029 || n == 0x202f || n == 0x205f ||
    n == 0x3000

/-- Drops the blanks in front. -/
def trimStart (s : List Char) : List Char :=
  s.dropWhile isBlank

def trimEnd (s : List Char) : List Char :=
  (s.reverse.dropWhile isBlank).reverse

/-- Drops the blanks at both ends. -/
def trim (s : List Char) : List Char :=
  trimEnd (trimStart s)

/-- A text without any character that is not blank. -/
def isAllBlank (s : String) : Bool :=
  s.toList.all isBlank

theorem trimStart_of_head {c : Char} {s : List Char} (h : isBlank c = false) :
    trimStart (c :: s) = c :: s := by
  simp [trimStart, h]

theorem trimStart_blanks {blanks : List Char} (h : ∀ c ∈ blanks, isBlank c = true)
    (s : List Char) : trimStart (blanks ++ s) = trimStart s :=
  List.dropWhile_append_of_pos h

theorem trimEnd_blanks {blanks : List Char} (h : ∀ c ∈ blanks, isBlank c = true) (s : List Char) :
    trimEnd (s ++ blanks) = trimEnd s := by
  have hreverse : ∀ c ∈ blanks.reverse, isBlank c = true := fun c hc => h c (List.mem_reverse.1 hc)
  rw [trimEnd, List.reverse_append, List.dropWhile_append_of_pos hreverse]
  rfl

theorem trimEnd_of_getLast {s : List Char} (h : ∀ c ∈ s.getLast?, isBlank c = false) :
    trimEnd s = s := by
  unfold trimEnd
  cases hs : s.reverse with
  | nil => rw [← List.reverse_reverse s, hs]; rfl
  | cons c r =>
    have hlast : s.getLast? = some c := by rw [← List.head?_reverse, hs]; rfl
    rw [List.dropWhile_cons_of_neg (by rw [h c hlast]; decide), ← hs, List.reverse_reverse]

/-- What stands between blanks, and neither starts nor ends with one, is what trimming leaves. -/
theorem trim_between {before s behind : List Char} (hbefore : ∀ c ∈ before, isBlank c = true)
    (hbehind : ∀ c ∈ behind, isBlank c = true) (hfirst : ∀ c ∈ s.head?, isBlank c = false)
    (hlast : ∀ c ∈ s.getLast?, isBlank c = false) : trim (before ++ (s ++ behind)) = s := by
  rw [trim, trimStart_blanks hbefore]
  cases s with
  | nil =>
    have hnone : trimStart (behind ++ []) = [] := trimStart_blanks hbehind []
    rw [List.nil_append, ← List.append_nil behind, hnone]
    rfl
  | cons c s =>
    rw [List.cons_append, trimStart_of_head (hfirst c rfl), ← List.cons_append,
      trimEnd_blanks hbehind, trimEnd_of_getLast hlast]

/-- What trimming leaves stands between blanks. -/
theorem eq_between_trim (s : List Char) :
    ∃ before behind, s = before ++ (trim s ++ behind) ∧ (∀ c ∈ before, isBlank c = true) ∧
      ∀ c ∈ behind, isBlank c = true := by
  refine ⟨s.takeWhile isBlank, ((trimStart s).reverse.takeWhile isBlank).reverse, ?_, ?_, ?_⟩
  · rw [trim, trimEnd, ← List.reverse_append, List.takeWhile_append_dropWhile,
      List.reverse_reverse]
    exact List.takeWhile_append_dropWhile.symm
  · exact List.all_eq_true.1 List.all_takeWhile
  · intro c hc
    exact List.all_eq_true.1 List.all_takeWhile c (List.mem_reverse.1 hc)

end Enrollment.Text

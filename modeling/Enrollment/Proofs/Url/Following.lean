import Mathlib.Data.List.DropRight
import Enrollment.Url.Parser
/-!
# Paths with more behind them

Following the segments of a path is a walk: every segment is added, or stands for nothing, or leads
back. Only where the path ends, a segment with dots leaves an empty name. So when more is put behind
a path, it stands behind the names that the walk has led to, which need not be those of the path.

Results:
 1. `follow_eq_walk`: following is walking, but for the end.
 2. `text_extended_iff`: a path with plain names put behind it reads as its text with theirs behind
    it, exactly when the walk does not end in an empty name.
 3. `text_blank_ne`: it never does when something that is encoded stands between.
-/

namespace Enrollment.Url

open Text (splitAtEach)

/-! ## Splitting -/

theorem splitAtEach_ne_nil (separator : Char) (s : List Char) : splitAtEach separator s ≠ [] := by
  cases s with
  | nil => exact List.cons_ne_nil _ _
  | cons c rest =>
    unfold splitAtEach
    split
    · exact List.cons_ne_nil _ _
    · split <;> exact List.cons_ne_nil _ _

/-- A separator splits what is in front of it from what is behind it. -/
theorem splitAtEach_append (separator : Char) (s t : List Char) :
    splitAtEach separator (s ++ separator :: t) =
      splitAtEach separator s ++ splitAtEach separator t := by
  induction s with
  | nil => exact if_pos rfl
  | cons c s ih =>
    rw [List.cons_append, splitAtEach, splitAtEach]
    split
    · rw [ih, List.cons_append]
    · rw [ih]
      cases h : splitAtEach separator s with
      | nil => exact absurd h (splitAtEach_ne_nil separator s)
      | cons word words => rfl

theorem splitAtEach_of_notMem {separator : Char} {s : List Char} (h : separator ∉ s) :
    splitAtEach separator s = [s] := by
  induction s with
  | nil => rfl
  | cons c s ih =>
    have hc : c ≠ separator := fun hc => h (hc ▸ List.mem_cons_self)
    rw [splitAtEach, if_neg hc, ih fun hs => h (List.mem_cons_of_mem c hs)]

/-- What has no separator in it belongs to the last word. -/
theorem splitAtEach_append_of_notMem {separator : Char} (s : List Char) {t : List Char}
    (h : separator ∉ t) :
    ∃ words word, splitAtEach separator s = words ++ [word] ∧
      splitAtEach separator (s ++ t) = words ++ [word ++ t] := by
  induction s with
  | nil => exact ⟨[], [], rfl, splitAtEach_of_notMem h⟩
  | cons c s ih =>
    obtain ⟨words, word, hs, hst⟩ := ih
    rw [List.cons_append, splitAtEach, splitAtEach, hs, hst]
    split
    · exact ⟨[] :: words, word, rfl, rfl⟩
    · cases words with
      | nil => exact ⟨[], c :: word, rfl, rfl⟩
      | cons first words => exact ⟨(c :: first) :: words, word, rfl, rfl⟩

theorem notMem_of_mem_splitAtEach {separator : Char} {s word : List Char}
    (h : word ∈ splitAtEach separator s) : separator ∉ word := by
  induction s generalizing word with
  | nil =>
    rw [List.mem_singleton.1 h]
    exact List.not_mem_nil
  | cons c s ih =>
    unfold splitAtEach at h
    split at h
    · rcases List.mem_cons.1 h with rfl | h
      · exact List.not_mem_nil
      · exact ih h
    · next hc =>
      split at h
      · rw [List.mem_singleton.1 h]
        exact fun hin => hc (List.mem_singleton.1 hin).symm
      · next first words hsplit =>
        rw [hsplit] at ih
        rcases List.mem_cons.1 h with rfl | h
        · intro hin
          rcases List.mem_cons.1 hin with hin | hin
          · exact hc hin.symm
          · exact ih List.mem_cons_self hin
        · exact ih (List.mem_cons_of_mem _ h)

/-! ## Texts of names -/

def namesText (names : List (List Char)) : List Char :=
  names.flatMap fun name => '/' :: name

theorem namesText_append (a b : List (List Char)) :
    namesText (a ++ b) = namesText a ++ namesText b :=
  List.flatMap_append

theorem namesText_singleton (name : List Char) : namesText [name] = '/' :: name :=
  List.append_nil _

theorem namesText_replicate (k : Nat) : namesText (List.replicate k []) = List.replicate k '/' := by
  induction k with
  | zero => rfl
  | succ k ih =>
    rw [List.replicate_succ, List.replicate_succ, ← ih]
    rfl

/-- A text without the slashes at its end. -/
def withoutSlashes (s : List Char) : List Char :=
  s.rdropWhile (· == '/')

theorem withoutSlashes_append_replicate (s : List Char) (k : Nat) :
    withoutSlashes (s ++ List.replicate k '/') = withoutSlashes s := by
  induction k with
  | zero => rw [List.replicate_zero, List.append_nil]
  | succ k ih =>
    rw [List.replicate_succ', ← List.append_assoc]
    exact (List.rdropWhile_concat_pos _ _ _ (by rfl)).trans ih

theorem length_withoutSlashes_le (s : List Char) : (withoutSlashes s).length ≤ s.length :=
  (List.rdropWhile_prefix (fun c => c == '/') (l := s)).length_le

/-! ## Walking -/

/-- The names that segments lead to when more segments follow, given those before, backwards. -/
def walk : List (List Char) → List (List Char) → List (List Char)
  | done, [] => done
  | done, segment :: rest =>
    if isDoubleDot segment then walk (leave done) rest
    else if isSingleDot segment then walk done rest
    else walk (segment :: done) rest

def isDots (segment : List Char) : Bool :=
  isDoubleDot segment || isSingleDot segment

theorem walk_append (done s t : List (List Char)) : walk done (s ++ t) = walk (walk done s) t := by
  induction s generalizing done with
  | nil => rfl
  | cons segment s ih =>
    rw [List.cons_append, walk, walk]
    split
    · exact ih _
    · split
      · exact ih _
      · exact ih _

theorem walk_names {t : List (List Char)} (h : ∀ segment ∈ t, isDots segment = false)
    (done : List (List Char)) : walk done t = t.reverse ++ done := by
  induction t generalizing done with
  | nil => rfl
  | cons segment t ih =>
    have hdots := Bool.or_eq_false_iff.1 (h segment List.mem_cons_self)
    rw [walk, if_neg (by rw [hdots.1]; decide), if_neg (by rw [hdots.2]; decide),
      ih fun s hs => h s (List.mem_cons_of_mem segment hs)]
    rw [List.reverse_cons, List.append_assoc]
    rfl

/-- Following segments is walking, and where they end in dots an empty name is left. -/
theorem follow_eq_walk (done s : List (List Char)) :
    follow done s = (walk done s).reverse ++ if s.getLast?.any isDots then [[]] else [] := by
  induction s generalizing done with
  | nil => exact (List.append_nil _).symm
  | cons segment rest ih =>
    cases rest with
    | nil =>
      cases hdouble : isDoubleDot segment with
      | true => simp [follow, walk, isDots, hdouble]
      | false => cases hsingle : isSingleDot segment <;> simp [follow, walk, isDots, hdouble, hsingle]
    | cons next rest =>
      rw [follow, walk, List.getLast?_cons_cons]
      · split
        · exact ih _
        · split
          · exact ih _
          · exact ih _
      · exact List.cons_ne_nil _ _

/-- Plain names behind some segments stand behind what those lead to. -/
theorem follow_append_names (s : List (List Char)) {t : List (List Char)}
    (h : ∀ segment ∈ t, isDots segment = false) (hne : t ≠ []) :
    follow [] (s ++ t) = (walk [] s).reverse ++ t := by
  have hlast : (s ++ t).getLast?.any isDots = false := by
    rw [List.getLast?_append, List.getLast?_eq_some_getLast hne]
    exact h _ (List.getLast_mem hne)
  rw [follow_eq_walk, walk_append, walk_names h, hlast, List.reverse_append, List.reverse_reverse]
  exact List.append_nil _

/-- A walk takes at most as much text as its segments have. -/
theorem length_walk_concat_le (s : List (List Char)) (segment : List Char) :
    (namesText (follow [] (s ++ [segment]))).length ≤
      (namesText (walk [] s).reverse).length + segment.length + 1 := by
  have hleave : ∀ done : List (List Char),
      (namesText (leave done).reverse).length ≤ (namesText done.reverse).length := by
    intro done
    unfold leave
    split
    · exact Nat.le_refl _
    · split
      · exact Nat.le_refl _
      · rw [List.reverse_cons, namesText_append, List.length_append]
        exact Nat.le_add_right _ _
  rw [follow_eq_walk, walk_append, List.getLast?_concat, namesText_append, List.length_append]
  show (namesText (List.reverse (if _ then _ else if _ then _ else _))).length +
    (namesText (if (_ || _) = true then _ else _)).length ≤ _
  have := hleave (walk [] s)
  cases isDoubleDot segment with
  | true =>
    show (namesText (leave (walk [] s)).reverse).length + 1 ≤ _
    omega
  | false =>
    cases isSingleDot segment with
    | true =>
      show (namesText (walk [] s).reverse).length + 1 ≤ _
      omega
    | false =>
      show (namesText (segment :: walk [] s).reverse).length + 0 ≤ _
      rw [List.reverse_cons, namesText_append, namesText_singleton, List.length_append,
        List.length_cons]
      omega

/-! ## Plain names and blanks -/

/-- A letter or digit that stays as it is in a path. -/
def isPlain (c : Char) : Bool :=
  c.isLower || c.isDigit

theorem isPlain_range {c : Char} (h : isPlain c = true) :
    0x30 ≤ c.toNat ∧ c.toNat ≤ 0x39 ∨ 0x61 ≤ c.toNat ∧ c.toNat ≤ 0x7a := by
  rcases Bool.or_eq_true_iff.1 h with hlower | hdigit
  · obtain ⟨hlow, hhigh⟩ := Bool.and_eq_true_iff.1 hlower
    exact Or.inr ⟨of_decide_eq_true hlow, of_decide_eq_true hhigh⟩
  · obtain ⟨hlow, hhigh⟩ := Bool.and_eq_true_iff.1 hdigit
    exact Or.inl ⟨of_decide_eq_true hlow, of_decide_eq_true hhigh⟩

theorem ne_of_isPlain {c d : Char} (h : isPlain c = true) (hd : isPlain d = false) : c ≠ d := by
  rintro rfl
  rw [h] at hd
  cases hd

def ArePlain (names : List (List Char)) : Prop :=
  ∀ name ∈ names, name ≠ [] ∧ ∀ c ∈ name, isPlain c = true

theorem toLower_of_isPlain {c : Char} (h : isPlain c = true) : c.toLower = c := by
  unfold Char.toLower
  split
  · next hupper =>
    have := isPlain_range h
    have h1 : 0x41 ≤ c.toNat := hupper.1
    have h2 : c.toNat ≤ 0x5a := hupper.2
    omega
  · rfl

/-- What leaves every character of a text as it is leaves the text as it is. -/
theorem map_of_fixed {f : Char → Char} {s : List Char} (h : ∀ c ∈ s, f c = c) : s.map f = s :=
  (List.map_congr_left h).trans (List.map_id' s)

theorem isDots_of_plain {name : List Char} (h : ∀ c ∈ name, isPlain c = true) :
    isDots name = false := by
  have hlower : name.map Char.toLower = name :=
    map_of_fixed fun c hc => toLower_of_isPlain (h c hc)
  -- Every way to write dots has a point or a percent sign in it.
  have hnot : ∀ s : String, ('.' ∈ s.toList ∨ '%' ∈ s.toList) → String.ofList name ≠ s := by
    rintro s hs rfl
    rw [String.toList_ofList] at hs
    rcases hs with hs | hs
    · exact absurd (h _ hs) (by decide)
    · exact absurd (h _ hs) (by decide)
  have hmem : ∀ forms : List String, (∀ s ∈ forms, '.' ∈ s.toList ∨ '%' ∈ s.toList) →
      decide (String.ofList (name.map Char.toLower) ∈ forms) = false := by
    intro forms hforms
    rw [hlower]
    exact decide_eq_false fun hin => hnot _ (hforms _ hin) rfl
  unfold isDots isDoubleDot isSingleDot
  rw [hmem _ (by decide), hmem _ (by decide)]
  rfl

theorem inPath_of_isPlain {c : Char} (h : isPlain c = true) : Percent.inPath c = false := by
  have hrange := isPlain_range h
  have hcontrol : Percent.isControl c = false := by
    simp only [Percent.isControl, Bool.or_eq_false_iff, decide_eq_false_iff_not]
    omega
  have hnot : ∀ marks : List Char, marks.any isPlain = false → decide (c ∈ marks) = false := by
    intro marks hmarks
    refine decide_eq_false fun hin => ?_
    rw [List.any_eq_true.2 ⟨c, hin, h⟩] at hmarks
    cases hmarks
  unfold Percent.inPath Percent.inFragment
  rw [hcontrol, hnot _ (by decide), hnot _ (by decide)]
  rfl

/-! ## Segments -/

/-- A slash of either kind, as one of the usual kind. -/
def straightened (c : Char) : Char :=
  if c == '\\' then '/' else c

/-- The segments of what stands behind a host. -/
def segmentsOf : List Char → List (List Char)
  | [] => []
  | _ :: rest => (splitAtEach '/' (rest.map straightened)).map (Percent.encode Percent.inPath)

/-- What may stand behind a host: nothing, or something with a slash of either kind in front. -/
def StartsWithSlash (s : List Char) : Prop :=
  ∀ c ∈ s.head?, isSlash c = true

theorem segmentPath_cons {c : Char} (h : isSlash c = true) (rest : List Char) :
    segmentPath true (c :: rest) = .segments (follow [] (segmentsOf (c :: rest))) := by
  have hslash : (c == '/' || true && c == '\\') = true := h
  unfold segmentPath
  dsimp only
  rw [if_pos hslash]
  rfl

theorem segmentsOf_append_slash {s : List Char} (hs : StartsWithSlash s) (t : List Char) :
    segmentsOf (s ++ '/' :: t) = segmentsOf s ++ segmentsOf ('/' :: t) := by
  cases s with
  | nil => rfl
  | cons c rest =>
    show ((splitAtEach '/' ((rest ++ '/' :: t).map straightened)).map _) = _
    rw [List.map_append, List.map_cons]
    show (splitAtEach '/' (rest.map straightened ++ '/' :: t.map straightened)).map _ = _
    rw [splitAtEach_append, List.map_append]
    rfl

theorem segmentsOf_replicate (k : Nat) :
    segmentsOf (List.replicate k '/') = List.replicate k [] := by
  induction k with
  | zero => rfl
  | succ k ih =>
    cases k with
    | zero => rfl
    | succ k =>
      have hslash : StartsWithSlash ['/'] := by
        rintro c ⟨⟩
        rfl
      have happend := segmentsOf_append_slash hslash (List.replicate k '/')
      rw [← List.replicate_succ, ih] at happend
      exact happend

theorem straightened_of_isPlain {c : Char} (h : isPlain c = true) : straightened c = c :=
  if_neg fun hc => ne_of_isPlain h (by decide) (eq_of_beq hc)

theorem segmentsOf_name {name : List Char} (h : ∀ c ∈ name, isPlain c = true) :
    segmentsOf ('/' :: name) = [name] := by
  have hmap : name.map straightened = name :=
    map_of_fixed fun c hc => straightened_of_isPlain (h c hc)
  have hsplit : '/' ∉ name := fun hin => ne_of_isPlain (h _ hin) (by decide) rfl
  show (splitAtEach '/' (name.map straightened)).map _ = _
  rw [hmap, splitAtEach_of_notMem hsplit, List.map_singleton,
    Percent.encode_of_plain fun c hc => inPath_of_isPlain (h c hc)]

theorem segmentsOf_namesText {names : List (List Char)} (h : ArePlain names) :
    segmentsOf (namesText names) = names := by
  induction names with
  | nil => rfl
  | cons name names ih =>
    have hname := segmentsOf_name (h name List.mem_cons_self).2
    have ih := ih fun n hn => h n (List.mem_cons_of_mem name hn)
    cases names with
    | nil =>
      show segmentsOf (('/' :: name) ++ []) = _
      rw [List.append_nil, hname]
    | cons next names =>
      have hslash : StartsWithSlash ('/' :: name) := by
        rintro c ⟨⟩
        rfl
      show segmentsOf (('/' :: name) ++ '/' :: (next ++ namesText names)) = _
      rw [segmentsOf_append_slash hslash, hname]
      exact congrArg (name :: ·) ih

theorem slash_notMem_encode {s : List Char} (h : '/' ∉ s) :
    '/' ∉ Percent.encode Percent.inPath s := by
  have hdigit : ∀ n < 16, Text.upperDigit n ≠ '/' := by decide
  intro hin
  obtain ⟨c, hc, hin⟩ := List.mem_flatMap.1 hin
  split at hin
  · obtain ⟨b, -, hin⟩ := List.mem_flatMap.1 hin
    have hb := b.toNat_lt
    rcases List.mem_cons.1 hin with hin | hin
    · cases hin
    · rcases List.mem_cons.1 hin with hin | hin
      · exact hdigit _ (by omega) hin.symm
      · exact hdigit _ (by omega) (List.mem_singleton.1 hin).symm
  · exact h (List.mem_singleton.1 hin ▸ hc)

/-- No segment has a slash in it. -/
theorem slash_notMem_segmentsOf {s segment : List Char} (h : segment ∈ segmentsOf s) :
    '/' ∉ segment := by
  cases s with
  | nil => cases h
  | cons c rest =>
    obtain ⟨word, hin, rfl⟩ := List.mem_map.1 h
    exact slash_notMem_encode (notMem_of_mem_splitAtEach hin)

/-! ## Paths -/

theorem walk_subset {done s : List (List Char)} {P : List Char → Prop} (hdone : ∀ n ∈ done, P n)
    (hs : ∀ n ∈ s, P n) : ∀ n ∈ walk done s, P n := by
  induction s generalizing done with
  | nil => exact hdone
  | cons segment rest ih =>
    have hrest := fun n hn => hs n (List.mem_cons_of_mem segment hn)
    unfold walk
    split
    · refine ih ?_ hrest
      intro n hn
      unfold leave at hn
      split at hn
      · cases hn
      · split at hn
        · exact hdone n hn
        · exact hdone n (List.mem_cons_of_mem _ hn)
    · split
      · exact ih hdone hrest
      · refine ih ?_ hrest
        intro n hn
        rcases List.mem_cons.1 hn with rfl | hn
        · exact hs n List.mem_cons_self
        · exact hdone n hn

/-- Where the path behind a host leads to when more follows. -/
def reached (s : List Char) : List (List Char) :=
  (walk [] (segmentsOf s)).reverse

/-- The path of a text with slashes at its end. -/
theorem text_slashes {s : List Char} (hs : StartsWithSlash s) (k : Nat) :
    ∃ j, (segmentPath true (s ++ List.replicate k '/')).text =
      namesText (reached s) ++ List.replicate j '/' := by
  have hsegments : segmentsOf (s ++ List.replicate k '/') = segmentsOf s ++ List.replicate k [] := by
    cases k with
    | zero => rw [List.replicate_zero, List.replicate_zero, List.append_nil, List.append_nil]
    | succ k =>
      rw [List.replicate_succ, segmentsOf_append_slash hs, ← List.replicate_succ,
        segmentsOf_replicate]
  have hwalk : (walk [] (segmentsOf s ++ List.replicate k [])).reverse =
      reached s ++ List.replicate k [] := by
    have hempty : ∀ segment ∈ List.replicate k ([] : List Char), isDots segment = false := by
      intro segment hsegment
      rw [List.eq_of_mem_replicate hsegment]
      decide
    rw [walk_append, walk_names hempty, List.reverse_append, List.reverse_reverse]
    rfl
  cases hcons : s ++ List.replicate k '/' with
  | nil =>
    obtain ⟨rfl, -⟩ := List.append_eq_nil_iff.1 hcons
    exact ⟨1, rfl⟩
  | cons c rest =>
    have hc : isSlash c = true := by
      cases s with
      | nil =>
        have hin : c ∈ List.replicate k '/' := by
          rw [List.nil_append] at hcons
          rw [hcons]
          exact List.mem_cons_self
        rw [List.eq_of_mem_replicate hin]
        rfl
      | cons d s =>
        obtain ⟨rfl, -⟩ := List.cons_eq_cons.1 hcons
        exact hs _ rfl
    rw [segmentPath_cons hc, ← hcons, hsegments]
    show ∃ j, namesText (follow [] _) = _
    rw [follow_eq_walk, hwalk, namesText_append, namesText_append, namesText_replicate]
    split
    · refine ⟨k + 1, ?_⟩
      rw [namesText_singleton, List.append_assoc, List.replicate_succ']
    · exact ⟨k, List.append_nil _⟩

/-- Plain names behind a path stand behind the names that it leads to. -/
theorem segmentPath_append_names {s : List Char} (hs : StartsWithSlash s)
    {names : List (List Char)} (hnames : ArePlain names) (hne : names ≠ []) :
    segmentPath true (s ++ namesText names) = .segments (reached s ++ names) := by
  have hsegments : segmentsOf (s ++ namesText names) = segmentsOf s ++ names := by
    cases names with
    | nil => exact absurd rfl hne
    | cons name names =>
      show segmentsOf (s ++ '/' :: (name ++ namesText names)) = _
      rw [segmentsOf_append_slash hs]
      exact congrArg _ (segmentsOf_namesText hnames)
  have hdots : ∀ segment ∈ names, isDots segment = false :=
    fun segment hsegment => isDots_of_plain (hnames segment hsegment).2
  have hcons : ∃ c rest, s ++ namesText names = c :: rest ∧ isSlash c = true := by
    cases s with
    | nil =>
      cases names with
      | nil => exact absurd rfl hne
      | cons name names => exact ⟨'/', name ++ namesText names, rfl, rfl⟩
    | cons c s => exact ⟨c, s ++ namesText names, rfl, hs c rfl⟩
  obtain ⟨c, rest, hcons, hc⟩ := hcons
  rw [hcons, segmentPath_cons hc, ← hcons, hsegments, follow_append_names _ hdots hne]
  rfl

/-- Names read as they were written, without the slashes at the end, exactly if the last one is not
empty. -/
theorem withoutSlashes_namesText {names : List (List Char)} (h : ∀ name ∈ names, '/' ∉ name) :
    withoutSlashes (namesText names) = namesText names ↔ names.getLast? ≠ some [] := by
  rcases List.eq_nil_or_concat' names with rfl | ⟨front, name, rfl⟩
  · exact iff_of_true rfl fun h => by cases h
  · rw [List.getLast?_concat, namesText_append, namesText_singleton]
    rcases List.eq_nil_or_concat' name with rfl | ⟨word, c, rfl⟩
    · refine iff_of_false ?_ fun hne => hne rfl
      intro heq
      have hle := length_withoutSlashes_le (namesText front)
      have hdrop := withoutSlashes_append_replicate (namesText front) 1
      rw [List.replicate_one, heq] at hdrop
      rw [← hdrop, List.length_append, List.length_singleton] at hle
      omega
    · refine iff_of_true ?_ ?_
      · have hc : c ≠ '/' := by
          rintro rfl
          exact h _ List.mem_concat_self List.mem_concat_self
        rw [← List.cons_append, ← List.append_assoc]
        exact List.rdropWhile_concat_neg _ _ _ fun heq => hc (eq_of_beq heq)
      · intro heq
        exact List.append_ne_nil_of_right_ne_nil word (List.cons_ne_nil c []) (Option.some_inj.1 heq)

/-- Plain names stand behind the text of a path without its slashes exactly if the path leads to no
empty name. -/
theorem text_extended_iff {s : List Char} (hs : StartsWithSlash s) (k : Nat)
    {names : List (List Char)} (hnames : ArePlain names) (hne : names ≠ []) :
    (segmentPath true (s ++ namesText names)).text =
        withoutSlashes (segmentPath true (s ++ List.replicate k '/')).text ++ namesText names ↔
      (reached s).getLast? ≠ some [] := by
  obtain ⟨j, htext⟩ := text_slashes hs k
  have hslash : ∀ name ∈ reached s, '/' ∉ name := by
    intro name hname
    exact walk_subset (P := fun n => '/' ∉ n) (fun _ hn => by cases hn)
      (fun n hn => slash_notMem_segmentsOf hn) name (List.mem_reverse.1 hname)
  rw [segmentPath_append_names hs hnames hne, htext, withoutSlashes_append_replicate]
  show namesText (reached s ++ names) = _ ↔ _
  rw [namesText_append, List.append_cancel_right_eq, eq_comm, withoutSlashes_namesText hslash]

/-! ## Blanks in between -/

def IsBlank (s : List Char) : Prop :=
  ∀ c ∈ s, c.toNat ≤ 0x20

theorem encode_append (encoded : Char → Bool) (s t : List Char) :
    Percent.encode encoded (s ++ t) = Percent.encode encoded s ++ Percent.encode encoded t :=
  List.flatMap_append

theorem encode_blank {c : Char} (h : c.toNat ≤ 0x20) :
    Percent.encode Percent.inPath [c] = Percent.encodeByte c.toNat.toUInt8 := by
  have hin : Percent.inPath c = true := by
    rcases Nat.lt_or_ge c.toNat 0x20 with hlt | hge
    · simp [Percent.inPath, Percent.inFragment, Percent.isControl, hlt]
    · have hc : c = ' ' := Char.toNat_inj.1 (Nat.le_antisymm h hge)
      rw [hc]
      decide
  have hchar : Text.encodeChar c = [c.toNat.toUInt8] := if_pos (by omega)
  show (if Percent.inPath c = true then _ else _) ++ [] = _
  rw [if_pos hin, hchar, List.append_nil]
  exact List.append_nil _

/-- What ends in a blank that was encoded is not one of the ways to write dots. -/
theorem isDots_append_blank (s : List Char) {c : Char} (h : c.toNat ≤ 0x20) :
    isDots (s ++ Percent.encode Percent.inPath [c]) = false := by
  have hforms : ∀ n < 0x21, ∀ form ∈ ["..", ".%2e", "%2e.", "%2e%2e", ".", "%2e"],
      form.toList.reverse.take 2 ≠
        [(Text.upperDigit (n % 16)).toLower, (Text.upperDigit (n / 16)).toLower] := by
    decide
  have hbyte : c.toNat.toUInt8.toNat = c.toNat := by
    rw [Nat.toUInt8_eq, UInt8.toNat_ofNat']
    omega
  have hnot : ∀ form ∈ ["..", ".%2e", "%2e.", "%2e%2e", ".", "%2e"],
      String.ofList ((s ++ Percent.encodeByte c.toNat.toUInt8).map Char.toLower) ≠ form := by
    rintro form hform rfl
    refine hforms c.toNat (by omega) _ hform ?_
    rw [String.toList_ofList, List.map_append, List.reverse_append, Percent.encodeByte, hbyte]
    rfl
  rw [encode_blank h]
  refine Bool.or_eq_false_iff.2 ⟨decide_eq_false fun hin => ?_, decide_eq_false fun hin => ?_⟩
  · exact hnot _ (List.mem_append_left [".", "%2e"] hin) rfl
  · exact hnot _ (List.mem_append_right ["..", ".%2e", "%2e.", "%2e%2e"] hin) rfl

/-- Blanks behind a path belong to its last segment. -/
theorem segmentsOf_append_blank {s blank : List Char} (hs : s ≠ []) (hblank : IsBlank blank) :
    ∃ front last, segmentsOf s = front ++ [last] ∧
      segmentsOf (s ++ blank) = front ++ [last ++ Percent.encode Percent.inPath blank] := by
  cases s with
  | nil => exact absurd rfl hs
  | cons c rest =>
    have hmap : blank.map straightened = blank := by
      refine map_of_fixed fun d hd => if_neg fun heq => ?_
      have := hblank d hd
      rw [eq_of_beq heq] at this
      exact absurd this (by decide)
    have hslash : '/' ∉ blank := fun hin => absurd (hblank _ hin) (by decide)
    obtain ⟨words, word, hsplit, hsplit'⟩ :=
      splitAtEach_append_of_notMem (rest.map straightened) hslash
    refine ⟨words.map (Percent.encode Percent.inPath), Percent.encode Percent.inPath word, ?_, ?_⟩
    · show (splitAtEach '/' (rest.map straightened)).map _ = _
      rw [hsplit, List.map_append, List.map_singleton]
    · show (splitAtEach '/' ((rest ++ blank).map straightened)).map _ = _
      rw [List.map_append, hmap, hsplit', List.map_append, List.map_singleton, encode_append]

/-- With a blank in between, plain names never stand behind the text of a path. -/
theorem text_blank_ne {s blank : List Char} (hs : StartsWithSlash s) (hs' : s ≠ [])
    (hblank : IsBlank blank) (hblank' : blank ≠ []) {names : List (List Char)}
    (hnames : ArePlain names) (hne : names ≠ []) :
    (segmentPath true (s ++ blank ++ namesText names)).text ≠
      withoutSlashes (segmentPath true s).text ++ namesText names := by
  obtain ⟨front, last, hsegments, hsegments'⟩ := segmentsOf_append_blank hs' hblank
  obtain ⟨blanks, c, rfl⟩ := (List.eq_nil_or_concat' blank).resolve_left hblank'
  have hc : c.toNat ≤ 0x20 := hblank c List.mem_concat_self
  have hstart : StartsWithSlash (s ++ (blanks ++ [c])) := by
    cases s with
    | nil => exact absurd rfl hs'
    | cons d rest => exact hs
  have hreached : reached (s ++ (blanks ++ [c])) = (walk [] front).reverse ++
      [last ++ Percent.encode Percent.inPath (blanks ++ [c])] := by
    have hdots : ∀ segment ∈ [last ++ Percent.encode Percent.inPath (blanks ++ [c])],
        isDots segment = false := by
      intro segment hsegment
      rw [List.mem_singleton.1 hsegment, encode_append, ← List.append_assoc]
      exact isDots_append_blank _ hc
    rw [reached, hsegments', walk_append, walk_names hdots]
    exact List.reverse_append
  have hpath : (segmentPath true s).text = namesText (follow [] (front ++ [last])) := by
    cases s with
    | nil => exact absurd rfl hs'
    | cons d rest =>
      rw [segmentPath_cons (hs d rfl), hsegments]
      rfl
  rw [segmentPath_append_names hstart hnames hne, hreached, hpath]
  show namesText _ ≠ _
  rw [namesText_append]
  intro heq
  have hlength := congrArg List.length (List.append_cancel_right heq)
  have hle := length_withoutSlashes_le (namesText (follow [] (front ++ [last])))
  have hwalk := length_walk_concat_le front last
  rw [namesText_append, namesText_singleton, encode_append, encode_blank hc] at hlength
  simp only [List.length_append, List.length_cons, Percent.encodeByte] at hlength
  omega

end Enrollment.Url

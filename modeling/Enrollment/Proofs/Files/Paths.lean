import Enrollment.Proofs.Files.Directories
/-!
# Plain paths

Where a path without `..` leads can be told from the path alone: from where it starts, down its
steps, which are its names without the points. So can the place of the directory above it and the
place of another file beside it.

Results:
 1. `parent_steps`: the directory above a path has all steps but the last.
 2. `withFileName_steps`: another file in the same directory has another last step.
 3. `placeOf_of_follow`: where a plain path leads.
-/

namespace Enrollment.Files

namespace Path

/-! ## Cutting paths -/

theorem cut_nil (position : Nat) : cut position [] [] = [] := rfl

theorem cut_flush (position : Nat) {pending : List Char} (h : pending ≠ []) :
    cut position pending [] = [⟨pending.reverse, position⟩] := by
  rw [cut, if_neg (by simpa using h)]

theorem cut_slash (position : Nat) (pending rest : List Char) :
    cut position pending ('/' :: rest) =
      cut position pending [] ++ cut (position + 1) [] rest := by
  cases pending with
  | nil => simp [cut]
  | cons c pending => simp [cut]

theorem cut_char {c : Char} (h : c ≠ '/') (position : Nat) (pending rest : List Char) :
    cut position pending (c :: rest) = cut (position + 1) (c :: pending) rest := by
  rw [cut, if_neg h]

theorem cut_append_slash (position : Nat) (pending s rest : List Char) :
    cut position pending (s ++ '/' :: rest) =
      cut position pending s ++ cut (position + s.length + 1) [] rest := by
  induction s generalizing position pending with
  | nil => exact cut_slash position pending rest
  | cons c s ih =>
    have hlength : position + 1 + s.length + 1 = position + (c :: s).length + 1 := by
      rw [List.length_cons]
      omega
    by_cases h : c = '/'
    · subst h
      rw [List.cons_append, cut_slash, cut_slash, ih, hlength, List.append_assoc]
    · rw [List.cons_append, cut_char h, cut_char h, ih, hlength]

/-- Characters without a slash are one part. -/
theorem cut_whole {s : List Char} (h : '/' ∉ s) (position : Nat) (pending : List Char)
    (hne : pending ++ s ≠ []) :
    cut position pending s = [⟨pending.reverse ++ s, position + s.length⟩] := by
  induction s generalizing position pending with
  | nil =>
    rw [List.append_nil] at hne ⊢
    exact cut_flush position hne
  | cons c s ih =>
    have hc : c ≠ '/' := by
      rintro rfl
      exact h List.mem_cons_self
    have hs : '/' ∉ s := fun hmem => h (List.mem_cons_of_mem c hmem)
    rw [cut_char hc, ih hs _ _ (List.cons_ne_nil _ _), List.reverse_cons, List.append_assoc,
      List.length_cons]
    congr 2
    omega

theorem of_mem_cut_nil {position : Nat} {pending : List Char} {p : Part}
    (hp : p ∈ cut position pending []) : pending ≠ [] ∧ p = ⟨pending.reverse, position⟩ := by
  cases pending with
  | nil => cases hp
  | cons c pending =>
    rw [cut_flush position (List.cons_ne_nil _ _), List.mem_singleton] at hp
    exact ⟨List.cons_ne_nil _ _, hp⟩

/-- No part is empty or has a slash, or ends where it starts. -/
theorem of_mem_cut {position : Nat} {pending s : List Char} {p : Part}
    (hp : p ∈ cut position pending s) (hpending : '/' ∉ pending) :
    p.name ≠ [] ∧ '/' ∉ p.name ∧ position ≤ p.stop ∧ (pending = [] → position < p.stop) := by
  induction s generalizing position pending with
  | nil =>
    obtain ⟨hne, rfl⟩ := of_mem_cut_nil hp
    exact ⟨by simpa using hne, by simpa using hpending, Nat.le_refl _, fun h => absurd h hne⟩
  | cons c s ih =>
    by_cases h : c = '/'
    · subst h
      rw [cut_slash, List.mem_append] at hp
      rcases hp with hp | hp
      · obtain ⟨hne, rfl⟩ := of_mem_cut_nil hp
        exact ⟨by simpa using hne, by simpa using hpending, Nat.le_refl _, fun h => absurd h hne⟩
      · obtain ⟨hne, hslash, hle, -⟩ := ih hp (by simp)
        exact ⟨hne, hslash, by omega, fun _ => by omega⟩
    · rw [cut_char h] at hp
      obtain ⟨hne, hslash, hle, -⟩ := ih hp (by simp [Ne.symm h, hpending])
      exact ⟨hne, hslash, by omega, fun _ => by omega⟩

/-- A path taken up to the end of a part has the parts up to this one. -/
theorem cut_take (position : Nat) {pending s : List Char} {before after : List Part} {p : Part}
    (h : cut position pending s = before ++ p :: after) (hpending : '/' ∉ pending) :
    cut position pending (s.take (p.stop - position)) = before ++ [p] := by
  -- The part that is looked for ends at a slash or at the end; it may be one of those in front.
  induction s generalizing position pending before with
  | nil =>
    cases pending with
    | nil =>
      rw [cut_nil] at h
      exact absurd h.symm (List.append_ne_nil_of_right_ne_nil _ (List.cons_ne_nil _ _))
    | cons c pending =>
      rw [cut_flush position (List.cons_ne_nil _ _)] at h
      cases before with
      | nil =>
        obtain ⟨rfl, -⟩ := List.cons.inj h
        rw [List.take_nil, cut_flush position (List.cons_ne_nil _ _)]
        rfl
      | cons b before =>
        have := (List.cons.inj h).2
        exact absurd this.symm (List.append_ne_nil_of_right_ne_nil _ (List.cons_ne_nil _ _))
  | cons c s ih =>
    have hp : p ∈ cut position pending (c :: s) := by
      rw [h]
      exact List.mem_append_right _ List.mem_cons_self
    by_cases hc : c = '/'
    · subst hc
      rw [cut_slash] at h hp
      cases pending with
      | nil =>
        rw [cut_nil, List.nil_append] at h hp
        obtain ⟨-, -, -, hlt⟩ := of_mem_cut hp (by simp)
        have htake : p.stop - position = p.stop - (position + 1) + 1 := by
          have := hlt rfl
          omega
        rw [htake, List.take_succ_cons, cut_slash, cut_nil, List.nil_append, ih _ h (by simp)]
      | cons d pending =>
        rw [cut_flush position (List.cons_ne_nil _ _)] at h
        cases before with
        | nil =>
          obtain ⟨rfl, -⟩ := List.cons.inj h
          rw [Nat.sub_self, List.take_zero, cut_flush position (List.cons_ne_nil _ _)]
          rfl
        | cons b before =>
          obtain ⟨rfl, hrest⟩ := List.cons.inj h
          replace hrest : cut (position + 1) [] s = before ++ p :: after := hrest
          have hmem : p ∈ cut (position + 1) [] s := by
            rw [hrest]
            exact List.mem_append_right _ List.mem_cons_self
          obtain ⟨-, -, -, hlt⟩ := of_mem_cut hmem (by simp)
          have htake : p.stop - position = p.stop - (position + 1) + 1 := by
            have := hlt rfl
            omega
          rw [htake, List.take_succ_cons, cut_slash, cut_flush position (List.cons_ne_nil _ _),
            ih _ hrest (by simp)]
          rfl
    · rw [cut_char hc] at h hp
      have hpending' : '/' ∉ c :: pending := by simp [Ne.symm hc, hpending]
      obtain ⟨-, -, hle, -⟩ := of_mem_cut hp hpending'
      have htake : p.stop - position = p.stop - (position + 1) + 1 := by omega
      rw [htake, List.take_succ_cons, cut_char hc, ih _ h hpending']

theorem cut_sorted (position : Nat) (pending s : List Char) (hpending : '/' ∉ pending) :
    (cut position pending s).Pairwise fun p q => p.stop < q.stop := by
  induction s generalizing position pending with
  | nil =>
    cases pending with
    | nil => exact .nil
    | cons c pending =>
      rw [cut_flush position (List.cons_ne_nil _ _)]
      exact List.pairwise_singleton _ _
  | cons c s ih =>
    by_cases h : c = '/'
    · subst h
      rw [cut_slash, List.pairwise_append]
      refine ⟨?_, ih _ _ (by simp), ?_⟩
      · cases pending with
        | nil => exact .nil
        | cons c pending =>
          rw [cut_flush position (List.cons_ne_nil _ _)]
          exact List.pairwise_singleton _ _
      · intro p hp q hq
        obtain ⟨-, rfl⟩ := of_mem_cut_nil hp
        obtain ⟨-, -, -, hlt⟩ := of_mem_cut hq (by simp)
        exact Nat.lt_trans (Nat.lt_succ_self position) (hlt rfl)
    · rw [cut_char h]
      exact ih _ _ (by simp [Ne.symm h, hpending])

/-! ## Steps -/

/-- A path that never goes up again. -/
def Plain (path : String) : Prop :=
  ".." ∉ names path

instance (path : String) : Decidable (Plain path) :=
  inferInstanceAs (Decidable (¬ _))

/-- The names of some parts that lead further down. -/
def stepsOf (ps : List Part) : List String :=
  (ps.map fun p => String.ofList p.name).filter fun name => name ≠ "."

/-- The names of a path that lead further down. -/
def steps (path : String) : List String :=
  (names path).filter fun name => name ≠ "."

theorem stepsOf_append (ps qs : List Part) : stepsOf (ps ++ qs) = stepsOf ps ++ stepsOf qs := by
  simp [stepsOf]

theorem stepsOf_point {p : Part} (h : p.name = ['.']) : stepsOf [p] = [] := by
  simp [stepsOf, h]

theorem stepsOf_name {p : Part} (h : p.name ≠ ['.']) : stepsOf [p] = [String.ofList p.name] := by
  have hne : String.ofList p.name ≠ "." := by
    intro heq
    exact h (by simpa using congrArg String.toList heq)
  simp [stepsOf, hne]

/-- Parts that add nothing are no steps. -/
theorem stepsOf_filter (ps : List Part) :
    stepsOf (ps.filter fun p => !addsNothing p) = stepsOf ps := by
  induction ps with
  | nil => rfl
  | cons p ps ih =>
    have hcons : ∀ qs, stepsOf (p :: qs) = stepsOf [p] ++ stepsOf qs := stepsOf_append [p]
    rw [hcons, ← ih]
    cases hp : addsNothing p with
    | false => rw [List.filter_cons_of_pos (by simp [hp]), hcons]
    | true =>
      have hname : p.name = ['.'] := by
        rw [addsNothing, Bool.and_eq_true, beq_iff_eq] at hp
        exact hp.1
      rw [List.filter_cons_of_neg (by simp [hp]), stepsOf_point hname, List.nil_append]

theorem steps_eq (path : String) : steps path = stepsOf (parts path) :=
  (stepsOf_filter _).symm

/-- A part that counts is a part of the path with others before and behind. -/
theorem cut_of_parts {path : String} {before after : List Part} {p : Part}
    (h : parts path = before ++ p :: after) :
    ∃ before' after', cut 0 [] path.toList = before' ++ p :: after' ∧
      stepsOf before' = stepsOf before := by
  obtain ⟨before', rest, hcut, hbefore, hrest⟩ := List.filter_eq_append_iff.1 h
  obtain ⟨skipped, after', rfl, hskipped, -, -⟩ := List.filter_eq_cons_iff.1 hrest
  refine ⟨before' ++ skipped, after', by rw [hcut, List.append_assoc], ?_⟩
  have hnone : skipped.filter (fun p => !addsNothing p) = [] :=
    List.filter_eq_nil_iff.2 hskipped
  have hempty : stepsOf skipped = [] := by
    rw [← stepsOf_filter, hnone]
    rfl
  rw [stepsOf_append, hempty, List.append_nil, ← stepsOf_filter, hbefore]

theorem stop_pos {path : String} {p : Part} (h : p ∈ cut 0 [] path.toList) : 0 < p.stop := by
  obtain ⟨-, -, -, hlt⟩ := of_mem_cut h (by simp)
  exact hlt rfl

/-- A part behind another one that counts is no point. -/
theorem name_ne_point {path : String} {before : List Part} {above last : Part}
    (h : parts path = before ++ [above, last]) : last.name ≠ ['.'] := by
  intro hname
  have hsorted := (cut_sorted 0 [] path.toList (by simp)).filter (fun p => !addsNothing p)
  change (parts path).Pairwise _ at hsorted
  have habove : above ∈ parts path := by
    rw [h]
    simp
  have hlast : last ∈ parts path := by
    rw [h]
    simp
  rw [h, List.pairwise_append] at hsorted
  have hlt := (List.pairwise_cons.1 hsorted.2.1).1 last (List.mem_singleton_self last)
  have hpos := stop_pos (List.mem_filter.1 habove).1
  have hcounts := (List.mem_filter.1 hlast).2
  have hstop : last.stop ≠ 1 := by omega
  simp [addsNothing, hname, hstop] at hcounts

/-! ## The directory above -/

theorem isAbsolute_take {path : String} {k : Nat} (h : 0 < k) :
    isAbsolute (String.ofList (path.toList.take k)) = isAbsolute path := by
  unfold isAbsolute
  rw [String.toList_ofList]
  cases path.toList with
  | nil => rw [List.take_nil]
  | cons c s =>
    obtain ⟨k, rfl⟩ := Nat.exists_eq_succ_of_ne_zero (Nat.pos_iff_ne_zero.1 h)
    rfl

/-- The directory above a path starts where the path does, goes up no more than the path, and has
all of its steps but the last. -/
theorem parent_steps {path above : String} (h : parent? path = some above) :
    isAbsolute above = isAbsolute path ∧ (∀ name ∈ names above, name ∈ names path) ∧
      steps above = (steps path).dropLast := by
  unfold parent? at h
  split at h
  · cases h
  -- A single part lies at the root or in the directory where one is, without any steps.
  · next p hparts =>
    cases h
    have hsingle : parts path = [p] := by
      rw [← List.reverse_reverse (parts path), hparts]
      rfl
    have hdrop : (steps path).dropLast = [] := by
      rw [steps_eq, hsingle]
      by_cases hname : p.name = ['.']
      · rw [stepsOf_point hname]
        rfl
      · rw [stepsOf_name hname]
        rfl
    rw [hdrop]
    split
    · next habsolute =>
      refine ⟨habsolute.symm, ?_, rfl⟩
      intro name hname
      cases hname
    · next hrelative =>
      refine ⟨(Bool.eq_false_iff.2 hrelative).symm, ?_, rfl⟩
      intro name hname
      cases hname
  -- The path is cut off behind the part above its last one.
  · next last q more hparts =>
    cases h
    have hboth : parts path = more.reverse ++ [q, last] := by
      rw [← List.reverse_reverse (parts path), hparts]
      simp
    obtain ⟨before, after, hcut, hsteps⟩ := cut_of_parts hboth
    have hmem : q ∈ cut 0 [] path.toList := by
      rw [hcut]
      exact List.mem_append_right _ List.mem_cons_self
    have hshort : cut 0 [] (path.toList.take q.stop) = before ++ [q] :=
      cut_take 0 hcut (by simp)
    refine ⟨isAbsolute_take (stop_pos hmem), ?_, ?_⟩
    · intro name hname
      rw [names, String.toList_ofList, hshort] at hname
      rw [names, hcut, List.append_cons, List.map_append]
      exact List.mem_append_left _ hname
    · have hnames : steps (String.ofList (path.toList.take q.stop)) = stepsOf (before ++ [q]) := by
        rw [steps, names, String.toList_ofList, hshort]
        rfl
      have hlast := name_ne_point hboth
      have hall : steps path = stepsOf (more.reverse ++ [q]) ++ [String.ofList last.name] := by
        rw [steps_eq, hboth, List.append_cons, stepsOf_append, stepsOf_name hlast]
      rw [hnames, hall, List.dropLast_concat, stepsOf_append, stepsOf_append, hsteps]

/-- A plain path lies in a directory with a plain path. -/
theorem Plain.parent {path above : String} (hplain : Plain path) (h : parent? path = some above) :
    Plain above := by
  obtain ⟨-, hnames, -⟩ := parent_steps h
  intro hup
  exact hplain (hnames _ hup)

/-! ## The file at the end -/

/-- A plain path without the name of a file has no steps. -/
theorem steps_of_fileName?_none {path : String} (hplain : Plain path) (h : fileName? path = none) :
    steps path = [] := by
  unfold fileName? at h
  split at h
  · next hlast =>
    rw [steps_eq, List.getLast?_eq_none_iff.1 hlast]
    rfl
  next p hlast =>
  split at h
  · next hdots =>
    obtain ⟨before, hparts⟩ := List.getLast?_eq_some_iff.1 hlast
    have hp : p ∈ parts path := by
      rw [hparts]
      exact List.mem_append_right _ (List.mem_singleton_self p)
    rcases hdots with hpoint | hup
    · rcases List.eq_nil_or_concat before with rfl | ⟨before, q, rfl⟩
      · rw [steps_eq, hparts, List.nil_append, stepsOf_point hpoint]
      · rw [List.concat_eq_append, List.append_assoc] at hparts
        exact absurd hpoint (name_ne_point hparts)
    · have hmem : ".." ∈ names path := by
        rw [names, List.mem_map]
        exact ⟨p, (List.mem_filter.1 hp).1, by rw [hup]⟩
      exact absurd hmem hplain
  · cases h

/-- The name of the file is the last step. -/
theorem steps_of_fileName? {path name : String} (h : fileName? path = some name) :
    steps path = (steps path).dropLast ++ [name] ∧ '/' ∉ name.toList ∧ name ≠ "" := by
  unfold fileName? at h
  split at h
  · cases h
  next p hlast =>
  split at h
  · cases h
  next hdots =>
  cases h
  obtain ⟨before, hparts⟩ := List.getLast?_eq_some_iff.1 hlast
  have hp : p ∈ parts path := by
    rw [hparts]
    exact List.mem_append_right _ (List.mem_singleton_self p)
  obtain ⟨hne, hslash, -, -⟩ := of_mem_cut (List.mem_filter.1 hp).1 (by simp)
  refine ⟨?_, by rw [String.toList_ofList]; exact hslash, ?_⟩
  · rw [steps_eq, hparts, stepsOf_append, stepsOf_name (fun hpoint => hdots (.inl hpoint)),
      List.dropLast_concat]
  · intro hempty
    exact hne (by simpa using congrArg String.toList hempty)

/-- A path has a directory above it if it has a name of a file. -/
theorem exists_parent {path name : String} (h : fileName? path = some name) :
    ∃ above, parent? path = some above := by
  unfold parent?
  split
  · next hparts =>
    rw [List.reverse_eq_nil_iff] at hparts
    rw [fileName?, hparts] at h
    cases h
  · exact ⟨_, rfl⟩
  · exact ⟨_, rfl⟩

/-! ## A file beside it -/

theorem isAbsolute_eq_false {name : String} (h : '/' ∉ name.toList) : isAbsolute name = false := by
  unfold isAbsolute
  cases hname : name.toList with
  | nil => rfl
  | cons c s =>
    rw [hname] at h
    have hc : c ≠ '/' := by
      rintro rfl
      exact h List.mem_cons_self
    simpa using hc

theorem isAbsolute_append {directory : String} (h : directory ≠ "") (path : String) :
    isAbsolute (directory ++ path) = isAbsolute directory := by
  unfold isAbsolute
  rw [String.toList_append]
  cases hdirectory : directory.toList with
  | nil => exact absurd (String.toList_eq_nil_iff.1 hdirectory) h
  | cons c s => rfl

/-- A name joined to a directory comes behind a slash. -/
theorem toList_join {directory name : String} (hslash : '/' ∉ name.toList) (hne : directory ≠ "")
    (hend : directory.toList.getLast? ≠ some '/') :
    (join directory name).toList = directory.toList ++ '/' :: name.toList := by
  have hsome : directory.isEmpty = false := by
    simpa using hne
  rw [join, isAbsolute_eq_false hslash]
  simp only [Bool.false_eq_true, ↓reduceIte]
  rw [if_neg (by simp [hsome, hend]), String.toList_append, String.toList_append, List.append_assoc]
  rfl

/-- A name joined to a directory comes behind its names. -/
theorem join_names (directory : String) {name : String} (hslash : '/' ∉ name.toList) (hname : name ≠ "") :
    isAbsolute (join directory name) = isAbsolute directory ∧
      names (join directory name) = names directory ++ [name] := by
  have hwhole : ∀ position, cut position [] name.toList =
      [⟨name.toList, position + name.toList.length⟩] := by
    intro position
    have hne : name.toList ≠ [] := fun h => hname (String.toList_eq_nil_iff.1 h)
    exact cut_whole hslash position [] hne
  by_cases hempty : directory = ""
  · subst hempty
    have hjoin : join "" name = name := by
      rw [join, isAbsolute_eq_false hslash]
      simp
    rw [hjoin, isAbsolute_eq_false hslash]
    refine ⟨rfl, ?_⟩
    rw [names, hwhole]
    simp [names, cut_nil]
  by_cases hend : directory.toList.getLast? = some '/'
  · have hjoin : join directory name = directory ++ name := by
      rw [join, isAbsolute_eq_false hslash]
      simp [hend]
    rw [hjoin]
    refine ⟨isAbsolute_append hempty name, ?_⟩
    obtain ⟨above, habove⟩ := List.getLast?_eq_some_iff.1 hend
    have htext : (directory ++ name).toList = above ++ '/' :: name.toList := by
      rw [String.toList_append, habove, List.append_assoc]
      rfl
    simp only [names, htext, habove, cut_append_slash, hwhole, cut_nil, List.append_nil,
      List.map_append, List.map_singleton, String.ofList_toList]
  · have htext := toList_join hslash hempty hend
    constructor
    · rw [isAbsolute, htext, isAbsolute]
      cases hdirectory : directory.toList with
      | nil => exact absurd (String.toList_eq_nil_iff.1 hdirectory) hempty
      | cons c s => rfl
    · simp only [names, htext, cut_append_slash, hwhole, List.map_append, List.map_singleton,
        String.ofList_toList]

/-- A name joined to another name lies in a directory of that name. -/
theorem parent?_join {above name : String} (habove : '/' ∉ above.toList) (hne : above ≠ "")
    (hpoint : above ≠ ".") (hslash : '/' ∉ name.toList) (hname : name ≠ "") (hname' : name ≠ ".") :
    parent? (join above name) = some above := by
  have htext : (join above name).toList = above.toList ++ '/' :: name.toList := by
    refine toList_join hslash hne ?_
    intro hend
    exact habove (List.mem_of_getLast? hend)
  have hcounts : ∀ {s : String} {position : Nat}, s ≠ "." →
      addsNothing ⟨s.toList, position⟩ = false := by
    intro s position hs
    have : s.toList ≠ ['.'] := by
      intro heq
      exact hs (String.toList_injective heq)
    simp [addsNothing, this]
  have hparts : parts (join above name) =
      [⟨above.toList, 0 + above.toList.length⟩,
        ⟨name.toList, 0 + above.toList.length + 1 + name.toList.length⟩] := by
    rw [parts, htext, cut_append_slash, cut_whole habove 0 [] (by simpa using hne),
      cut_whole hslash _ [] (by simpa using hname)]
    simp [hcounts hpoint, hcounts hname']
  rw [parent?, hparts]
  show some (String.ofList ((join above name).toList.take (0 + above.toList.length))) = _
  rw [htext, Nat.zero_add, List.take_left, String.ofList_toList]

/-- Another file in the directory of a file starts where the path does, is plain if the path is,
and differs in the last step. -/
theorem withFileName_steps {path old name : String} (hold : fileName? path = some old)
    (hslash : '/' ∉ name.toList) (hname : name ≠ "") (hpoint : name ≠ ".") :
    isAbsolute (withFileName path name) = isAbsolute path ∧
      (∀ n ∈ names (withFileName path name), n ∈ names path ∨ n = name) ∧
      steps (withFileName path name) = (steps path).dropLast ++ [name] := by
  obtain ⟨above, habove⟩ := exists_parent hold
  obtain ⟨habsolute, hnames, hsteps⟩ := parent_steps habove
  obtain ⟨hjoin, hjoined⟩ := join_names above hslash hname
  have hwith : withFileName path name = join above name := by
    rw [withFileName, hold, habove]
    rfl
  rw [hwith]
  refine ⟨hjoin.trans habsolute, ?_, ?_⟩
  · intro n hn
    rw [hjoined, List.mem_append, List.mem_singleton] at hn
    rcases hn with hn | rfl
    · exact .inl (hnames n hn)
    · exact .inr rfl
  · rw [steps, hjoined, List.filter_append, ← hsteps, steps]
    simp [hpoint]

end Path

namespace Tree

variable {t : Tree}

/-! ## Places -/

/-- Where a plain path leads, if it leads anywhere. -/
def placeOf (t : Tree) (path : String) : Place :=
  t.start path ++ Path.steps path

theorem enter_plain {names : List String} (hplain : ".." ∉ names) {place place' : Place}
    (h : t.enter place names = .ok place') :
    place' = place ++ names.filter fun name => name ≠ "." := by
  induction names generalizing place with
  | nil =>
    cases h
    exact (List.append_nil _).symm
  | cons name names ih =>
    have hrest : ".." ∉ names := fun hmem => hplain (List.mem_cons_of_mem name hmem)
    have hup : name ≠ ".." := by
      rintro rfl
      exact hplain List.mem_cons_self
    rw [enter] at h
    split at h
    · next hpoint =>
      rw [ih hrest h, List.filter_cons]
      simp [hpoint]
    next hpoint =>
    split at h
    · cases h
    split at h
    · cases h
    split at h
    · rw [ih hrest h, List.filter_cons]
      simp [hpoint]
    · cases h

/-- Where a plain path leads. -/
theorem placeOf_of_follow {path : String} (hplain : Path.Plain path) {directory : Place}
    {name : String} {slash : Bool} (h : t.follow path = .ok (.named directory name slash)) :
    directory ++ [name] = t.placeOf path ∧ Path.steps path ≠ [] := by
  rcases follow_cases path with ⟨fault, hfault⟩ | ⟨-, hnone⟩ | ⟨before, last, hlast, hnames⟩
  · rw [hfault] at h
    cases h
  · rw [hnone] at h
    cases h
  rw [hnames] at h
  cases henter : t.enter (t.start path) before with
  | error fault =>
    rw [henter] at h
    cases h
  | ok place =>
    rw [henter] at h
    obtain ⟨hpoint, rfl, rfl⟩ := finish_named h
    have hbefore : ".." ∉ before := by
      intro hmem
      exact hplain (hlast ▸ List.mem_append_left _ hmem)
    have hsteps : Path.steps path = before.filter (fun name => name ≠ ".") ++ [name] := by
      rw [Path.steps, hlast, List.filter_append]
      simp [hpoint]
    rw [enter_plain hbefore henter, placeOf, hsteps, List.append_assoc]
    exact ⟨rfl, List.append_ne_nil_of_right_ne_nil _ (List.cons_ne_nil _ _)⟩

end Tree

end Enrollment.Files

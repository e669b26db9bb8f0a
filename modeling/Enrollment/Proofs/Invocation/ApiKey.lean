import Enrollment.Proofs.Invocation.Reading
/-!
# The token on a command line

Two command lines that differ in the token alone are read alike: neither a verb nor a complaint nor
another switch depends on it, and it is the token that counts unless another one is given behind it, at a
level of its own.

Results:
 1. `readLevel_keyWord`: the levels of a command line with a token.
 2. `value?_key`: which token counts.
 3. `read_key`: the invocation of such a command line.
-/

namespace Enrollment.Invocation

/-! ## A word that gives the token -/

def keyWord (key : String) : String :=
  "--api-key=" ++ key

/-- A word that gives a token, or announces one. -/
def GivesKey (word : String) : Prop :=
  "--api-key".toList <+: word.toList

theorem keyWord_toList (key : String) :
    (keyWord key).toList = '-' :: '-' :: ("api-key=".toList ++ key.toList) := by
  rw [keyWord, String.toList_append]
  rfl

/-- No verb starts with a dash. -/
theorem follower?_of_dash (v : Verb) {word : String} (h : word.toList.head? = some '-') :
    v.follower? word = none ∧ v.isHelp word = false := by
  have hnames : ∀ w : Verb, ∀ name ∈ w.names, name.toList.head? ≠ some '-' := by
    intro w
    cases w <;> decide
  constructor
  · refine List.find?_eq_none.2 fun w _ hw => ?_
    exact hnames w word (List.contains_iff_mem.1 hw) h
  · refine Bool.and_eq_false_iff.2 (.inl (beq_eq_false_iff_ne.2 ?_))
    rintro rfl
    revert h
    decide

theorem keyWord_head? (key : String) : (keyWord key).toList.head? = some '-' := by
  rw [keyWord_toList]
  rfl

theorem readingOf_keyWord (v : Verb) (isAwaited : Bool) (key : String) :
    readingOf v isAwaited (keyWord key) = .long ("api-key=".toList ++ key.toList) := by
  obtain ⟨hverb, hhelp⟩ := follower?_of_dash v (keyWord_head? key)
  unfold readingOf
  rw [hverb, hhelp, keyWord_toList, Bool.and_false, ite_self]
  rfl

theorem readLong_keyWord (path : List Verb) (v : Verb) (l : Level) (key : String) :
    readLong path v l ("api-key=".toList ++ key.toList) = l.give .apiKey key := by
  have hswitch : Switch.ofLong? v "api-key" = some .apiKey :=
    Switch.ofLong?_long (s := .apiKey) rfl
  have hname : String.ofList (("api-key=".toList ++ key.toList).takeWhile (· != '=')) =
      "api-key" := rfl
  have hvalue : ("api-key=".toList ++ key.toList).dropWhile (· != '=') = '=' :: key.toList := rfl
  unfold readLong
  rw [hname, hvalue]
  dsimp only
  rw [hswitch]
  show l.give .apiKey (String.ofList key.toList) = _
  rw [String.ofList_toList]

/-- What is said of a word that gives a token is not said of its token. -/
theorem strayWord_keyWord (v : Verb) (afterDashes : Bool) :
    ∃ usage, ∀ key, strayWord v afterDashes (keyWord key) = usage := by
  refine ⟨if v.followers.isEmpty then .unknown else .verbUnknown, fun key => ?_⟩
  obtain ⟨hverb, hhelp⟩ := follower?_of_dash v (keyWord_head? key)
  unfold strayWord
  rw [hverb, hhelp]
  simp

theorem helpOn_keyWord (v : Verb) (before after : List String) :
    ∃ usage, ∀ key, helpOn v (before ++ keyWord key :: after) = usage := by
  induction before generalizing v with
  | nil =>
    refine ⟨.verbUnknown, fun key => ?_⟩
    obtain ⟨hverb, hhelp⟩ := follower?_of_dash v (keyWord_head? key)
    rw [List.nil_append, helpOn, hverb, hhelp]
    rfl
  | cons word rest ih =>
    cases hverb : v.follower? word with
    | some w =>
      obtain ⟨usage, husage⟩ := ih w
      refine ⟨usage, fun key => ?_⟩
      rw [List.cons_append, helpOn, hverb]
      exact husage key
    | none =>
      refine ⟨.verbUnknown, fun key => ?_⟩
      have hmore : (rest ++ keyWord key :: after).isEmpty = false := by
        cases rest with
        | nil => rfl
        | cons _ _ => rfl
      rw [List.cons_append, helpOn, hverb, hmore, Bool.and_false]
      rfl

theorem pending_of_settle {l l' : Level} (h : l.settle = .ok l') : l'.pending = none := by
  unfold Level.settle at h
  split at h
  · next hnone =>
    cases h
    exact hnone
  · cases h
  · unfold Level.set at h
    split at h
    · cases h
    · next s value _ _ =>
      cases hcheck : s.checkValue value with
      | error usage =>
        rw [hcheck] at h
        cases h
      | ok _ =>
        rw [hcheck] at h
        cases h
        rfl

/-- The switches that words set on the command line, if the token is not to be one of them. -/
def AllButKey (after : List String) (s : Switch) : Prop :=
  (∀ word ∈ after, ¬GivesKey word) → s ≠ .apiKey

theorem allows_allButKey {after : List String} : ∀ word ∈ after, Allows (AllButKey after) word := by
  rintro word hword s hs hnone rfl
  exact hnone word hword hs

/-- What is read of a level on which the token stands: a complaint that is the same for every token, or
levels that are the same but for the token. -/
def ReadsKey (after : List String) (read : String → Except Usage Levels) : Prop :=
  (∃ usage, ∀ key, read key = .error usage) ∨
    ∃ verb outer front base inner, (∀ s ∈ front, Setting.switch s ≠ .apiKey) ∧
      (∀ level ∈ inner, ∀ s ∈ level, s.source = .commandLine → AllButKey after s.switch) ∧
      ∀ key, read key =
        .ok ⟨verb, outer ++ (front ++ ⟨.apiKey, .commandLine, key⟩ :: base) :: inner⟩

variable {after : List String}

theorem readsKey_error (usage : Usage) {read : String → Except Usage Levels}
    (h : ∀ key, read key = .error usage) : ReadsKey after read :=
  .inl ⟨usage, h⟩

theorem ReadsKey.congr {read read' : String → Except Usage Levels} (h : ReadsKey after read)
    (heq : ∀ key, read' key = read key) : ReadsKey after read' := by
  obtain rfl : read' = read := funext heq
  exact h

/-- A level without the token in front of levels that hold it. -/
theorem ReadsKey.behind {read : String → Except Usage Levels} (h : ReadsKey after read)
    (level : Except Usage (List Setting)) : ReadsKey after fun key => read key >>= fun inner =>
      level >>= fun settings => .ok { inner with settings := settings :: inner.settings } := by
  rcases h with ⟨usage, herror⟩ | ⟨verb, outer, front, base, inner, hfront, hinner, hok⟩
  · refine readsKey_error usage fun key => ?_
    rw [herror]
    rfl
  · cases level with
    | error usage =>
      refine readsKey_error usage fun key => ?_
      rw [hok]
      rfl
    | ok settings =>
      refine .inr ⟨verb, settings :: outer, front, base, inner, hfront, hinner, fun key => ?_⟩
      show read key >>= _ = _
      rw [hok]
      rfl

/-- Something is done to the level first. -/
theorem readsKey_bind {step : Except Usage Level} {read : Level → String → Except Usage Levels}
    (h : ∀ l, ReadsKey after (read l)) : ReadsKey after fun key => step >>= fun l => read l key := by
  cases step with
  | error usage => exact readsKey_error usage fun _ => rfl
  | ok l => exact h l

/-- Behind the token, words are read as if another one stood there. -/
theorem readLevel_behindKey (env : Environment) (path : List Verb) (v : Verb) (l : Level) :
    ReadsKey after fun key => readLevel env path v l (keyWord key :: after) := by
  have hcons : ∀ key, readLevel env path v l (keyWord key :: after) =
      l.settle >>= fun l => l.set .apiKey .commandLine key >>= fun l =>
        readLevel env path v l after := by
    intro key
    rw [readLevel_cons, readingOf_keyWord, readAs, readLong_keyWord]
    show (l.settle >>= _) >>= _ = _
    rw [bind_assoc]
  cases hsettle : l.settle with
  | error usage =>
    rw [hsettle] at hcons
    exact readsKey_error usage hcons
  | ok l' =>
    rw [hsettle] at hcons
    cases hset : l'.has .apiKey with
    | true =>
      refine readsKey_error .repeated fun key => (hcons key).trans ?_
      show l'.set .apiKey .commandLine key >>= _ = _
      unfold Level.set
      rw [hset]
      rfl
    | false =>
      have hcons : ∀ key, readLevel env path v l (keyWord key :: after) = readLevel env path v
          { l' with settings := ⟨.apiKey, .commandLine, key⟩ :: l'.settings } after := by
        intro key
        rw [hcons]
        show l'.set .apiKey .commandLine key >>= _ = _
        unfold Level.set
        rw [hset]
        rfl
      -- Which switches are set does not depend on the token.
      have hshort : ∀ s : Switch, s.short?.isSome → AllButKey after s := by
        rintro s hs - rfl
        cases hs
      rcases readLevel_adds env hshort allows_allButKey path v l'.pending
          (Level.has ⟨⟨.apiKey, .commandLine, ""⟩ :: l'.settings, l'.pending⟩)
          (by rw [pending_of_settle hsettle]; exact awaits_none) with
        ⟨usage, herror⟩ | ⟨verb, added, inner, hnew, hinner, hok⟩
      · exact readsKey_error usage fun key => (hcons key).trans (herror _ rfl rfl)
      · refine .inr ⟨verb, [], added, l'.settings, inner, fun s hs hkey => ?_, hinner,
          fun key => (hcons key).trans (hok _ rfl rfl)⟩
        have hnot := (hnew s hs).2
        rw [hkey] at hnot
        cases hnot

/-- A command line with a token is read alike for every token. -/
theorem readLevel_keyWord (env : Environment) (before : List String) (path : List Verb) (v : Verb)
    (l : Level) : ReadsKey after fun key => readLevel env path v l (before ++ keyWord key :: after) := by
  induction before generalizing path v l with
  | nil => exact readLevel_behindKey env path v l
  | cons word rest ih =>
    refine ReadsKey.congr ?_ fun key => readLevel_cons env path v l word (rest ++ keyWord key :: after)
    cases readingOf v l.awaitsValue word with
    | help =>
      obtain ⟨usage, husage⟩ := helpOn_keyWord v rest after
      exact readsKey_error usage fun key => congrArg Except.error (husage key)
    | stray => exact readsKey_error _ fun key => rfl
    | verb w => exact (ih (path ++ [w]) w {}).behind (l.finish env)
    | last =>
      cases rest with
      | nil =>
        obtain ⟨usage, husage⟩ := strayWord_keyWord v true
        exact readsKey_error usage fun key => congrArg Except.error (husage key)
      | cons stray rest => exact readsKey_error _ fun key => rfl
    | long long => exact readsKey_bind fun l => ih path v l
    | short letters => exact readsKey_bind fun l => ih path v l
    | value => exact ih path v (l.take word)

/-! ## Which token counts -/

section

variable {verb : Verb} {outer inner : List (List Setting)} {front base : List Setting}

/-- No other switch depends on the token. -/
theorem value?_other {s : Switch} (hs : s ≠ .apiKey) (key : String) :
    Levels.value? ⟨verb, outer ++ (front ++ ⟨.apiKey, .commandLine, key⟩ :: base) :: inner⟩ s =
      Levels.value? ⟨verb, outer ++ (front ++ base) :: inner⟩ s := by
  have hfind : (front ++ ⟨.apiKey, .commandLine, key⟩ :: base).find? (·.switch == s) =
      (front ++ base).find? (·.switch == s) := by
    have hskip : (Switch.apiKey == s) = false := beq_eq_false_iff_ne.2 hs.symm
    rw [List.find?_append, List.find?_append, List.find?_cons, hskip]
  unfold Levels.value?
  simp only [List.foldl_append, List.foldl_cons, hfind]

/-- A token is set on the command line at one of some levels. -/
def SetsKey (levels : List (List Setting)) : Prop :=
  ∃ level ∈ levels, ∃ s ∈ level, s.source = .commandLine ∧ s.switch = .apiKey

/-- A level leaves a token on the command line as it is, or puts one of its own in its place. -/
theorem stronger_find? (level : List Setting) :
    (∀ a : Setting, a.source = .commandLine →
        stronger (some a) (level.find? (·.switch == .apiKey)) = some a) ∨
      ∃ b ∈ level, b.source = .commandLine ∧ b.switch = .apiKey ∧
        ∀ a : Setting, stronger (some a) (level.find? (·.switch == .apiKey)) = some b := by
  cases hfind : level.find? (·.switch == .apiKey) with
  | none => exact .inl fun a _ => rfl
  | some b =>
    cases hsource : b.source with
    | environment => exact .inl fun a ha => if_pos ⟨ha, hsource⟩
    | commandLine =>
      have hswitch : (b.switch == .apiKey) = true :=
        List.find?_some (p := fun s : Setting => s.switch == .apiKey) hfind
      refine .inr ⟨b, List.mem_of_find?_eq_some hfind, hsource, eq_of_beq hswitch, fun a => ?_⟩
      refine if_neg fun h => ?_
      rw [hsource] at h
      cases h.2

/-- The setting of the token that counts, given the one in front of some levels. -/
def countedKey (found : Option Setting) (levels : List (List Setting)) : Option Setting :=
  levels.foldl (fun found level => stronger found (level.find? (·.switch == .apiKey))) found

/-- Levels leave a token on the command line as it is, or one of them puts another in its place. -/
theorem countedKey_cases (levels : List (List Setting)) :
    (∀ a : Setting, a.source = .commandLine → countedKey (some a) levels = some a) ∨
      SetsKey levels ∧ ∃ b, ∀ a : Setting, a.source = .commandLine →
        countedKey (some a) levels = some b := by
  induction levels with
  | nil => exact .inl fun a _ => rfl
  | cons level levels ih =>
    have hcons : ∀ a, countedKey (some a) (level :: levels) =
        countedKey (stronger (some a) (level.find? (·.switch == .apiKey))) levels := fun a => rfl
    rcases stronger_find? level with hsame | ⟨b, hb, hsource, hswitch, htaken⟩
    · rcases ih with hkept | ⟨⟨level', hlevel', hsets⟩, b, htaken⟩
      · refine .inl fun a ha => ?_
        rw [hcons, hsame a ha, hkept a ha]
      · refine .inr ⟨⟨level', List.mem_cons_of_mem level hlevel', hsets⟩, b, fun a ha => ?_⟩
        rw [hcons, hsame a ha, htaken a ha]
    · refine .inr ⟨⟨level, List.mem_cons_self, b, hb, hsource, hswitch⟩, ?_⟩
      rcases ih with hkept | ⟨-, b', htaken'⟩
      · refine ⟨b, fun a _ => ?_⟩
        rw [hcons, htaken, hkept b hsource]
      · refine ⟨b', fun a _ => ?_⟩
        rw [hcons, htaken, htaken' b hsource]

/-- The token counts, or another one does that stands behind it. -/
theorem value?_key (verb : Verb) (outer : List (List Setting)) (base : List Setting)
    (inner : List (List Setting)) (hfront : ∀ s ∈ front, Setting.switch s ≠ .apiKey) :
    (∀ key, Levels.value? ⟨verb, outer ++ (front ++ ⟨.apiKey, .commandLine, key⟩ :: base) :: inner⟩
        .apiKey = some key) ∨
      SetsKey inner ∧ ∃ value, ∀ key, Levels.value?
        ⟨verb, outer ++ (front ++ ⟨.apiKey, .commandLine, key⟩ :: base) :: inner⟩ .apiKey =
          some value := by
  have hfind : ∀ key : String, (front ++ ⟨.apiKey, .commandLine, key⟩ :: base).find?
      (·.switch == .apiKey) = some ⟨.apiKey, .commandLine, key⟩ := by
    intro key
    have hnone : front.find? (·.switch == .apiKey) = none :=
      List.find?_eq_none.2 fun s hs heq => hfront s hs (eq_of_beq heq)
    rw [List.find?_append, hnone]
    rfl
  have htaken : ∀ (found : Option Setting) (key : String),
      stronger found (some ⟨.apiKey, .commandLine, key⟩) = some ⟨.apiKey, .commandLine, key⟩ := by
    intro found key
    cases found with
    | none => rfl
    | some a => exact if_neg fun h => by cases h.2
  have hvalue : ∀ key, Levels.value?
      ⟨verb, outer ++ (front ++ ⟨.apiKey, .commandLine, key⟩ :: base) :: inner⟩ .apiKey =
      (countedKey (some ⟨.apiKey, .commandLine, key⟩) inner).map (·.value) := by
    intro key
    unfold Levels.value?
    rw [List.foldl_append, List.foldl_cons, hfind, htaken]
    rfl
  rcases countedKey_cases inner with hkept | ⟨hsets, b, hb⟩
  · refine .inl fun key => ?_
    rw [hvalue, hkept _ rfl]
    rfl
  · refine .inr ⟨hsets, b.value, fun key => ?_⟩
    rw [hvalue, hb _ rfl]
    rfl

end

/-! ## Invocations with a token -/

def withKey (i : Invocation) (key : String) : Invocation :=
  { i with override := { i.override with apiKey := some key } }

/-- What levels ask for, given the value of the token. -/
def ofLevelsWith (ls : Levels) (key : Option String) : Except Usage Invocation :=
  (ofLevels ls).map fun i => { i with override := { i.override with apiKey := key } }

theorem ofLevels_eq {ls ls' : Levels} (hverb : ls'.verb = ls.verb)
    (h : ∀ s : Switch, s ≠ .apiKey → ls'.value? s = ls.value? s) :
    ofLevels ls' = ofLevelsWith ls (ls'.value? .apiKey) := by
  have hcommand : ls'.command = ls.command := by
    unfold Levels.command Levels.isOn
    rw [hverb, h .check (by decide)]
  unfold ofLevelsWith ofLevels Levels.isOn
  rw [hcommand, h .config (by decide), h .coordinatorUrl (by decide), h .address (by decide),
    h .output (by decide), h .skipVersionCheck (by decide), h .verbose (by decide),
    h .noColor (by decide)]
  cases ls.command with
  | error usage => rfl
  | ok command => rfl

/-- A command line with a token ends in the same complaint for every token, or in the same invocation but
for the token, or, if another token may stand behind it, in the very same invocation. -/
theorem read_key (env : Environment) (before after : List String) :
    (∃ usage, ∀ key, read env (before ++ keyWord key :: after) = .error usage) ∨
      (∃ i : Invocation, ∀ key, read env (before ++ keyWord key :: after) = .ok (i.withKey key)) ∨
      (∃ word ∈ after, GivesKey word) ∧
        ∃ i, ∀ key, read env (before ++ keyWord key :: after) = .ok i := by
  have hlevels : ReadsKey after fun key =>
      readLevel env [.root] .root {} (before ++ keyWord key :: after) :=
    readLevel_keyWord env before [.root] .root {}
  rcases hlevels with
    ⟨usage, herror⟩ | ⟨verb, outer, front, base, inner, hfront, hinner, hok⟩
  · refine .inl ⟨usage, fun key => ?_⟩
    exact congrArg (· >>= ofLevels) (herror key)
  · have hread : ∀ key, read env (before ++ keyWord key :: after) =
        ofLevelsWith ⟨verb, outer ++ (front ++ base) :: inner⟩ (Levels.value?
          ⟨verb, outer ++ (front ++ ⟨.apiKey, .commandLine, key⟩ :: base) :: inner⟩ .apiKey) := by
      intro key
      have hlevels : read env (before ++ keyWord key :: after) = ofLevels _ :=
        congrArg (· >>= ofLevels) (hok key)
      rw [hlevels]
      exact ofLevels_eq rfl fun s hs => value?_other hs key
    cases hbase : ofLevels ⟨verb, outer ++ (front ++ base) :: inner⟩ with
    | error usage =>
      refine .inl ⟨usage, fun key => ?_⟩
      rw [hread, ofLevelsWith, hbase]
      rfl
    | ok i =>
      rcases value?_key verb outer base inner hfront with
        hkey | ⟨⟨level, hlevel, b, hb, hsource, hswitch⟩, value, hvalue⟩
      · refine .inr (.inl ⟨i, fun key => ?_⟩)
        rw [hread, ofLevelsWith, hbase, hkey]
        rfl
      · refine .inr (.inr ⟨?_, i.withKey value, fun key => ?_⟩)
        · refine Classical.byContradiction fun hnone => ?_
          exact hinner level hlevel b hb hsource
            (fun word hword hgives => hnone ⟨word, hword, hgives⟩) hswitch
        · rw [hread, ofLevelsWith, hbase, hvalue]
          rfl

end Enrollment.Invocation

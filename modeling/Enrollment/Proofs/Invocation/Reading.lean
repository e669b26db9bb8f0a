import Enrollment.Invocation.Reader
/-!
# What reading words depends on

What is read of a word depends on which switches are set and which one waits for its value, but not on the
values that were given before. So words behind a level add the same settings to it, and the same levels
behind it, whatever stands there; and what they add is on switches that were not set.

Results:
 1. `Adds.bind`, `Adds.reads`: steps that add to a level, one behind the other.
 2. `readLevel_cons`: what is done with a word, by what it is taken for.
 3. `readLevel_adds`: what reading words adds.
-/

namespace Enrollment.Invocation

/-! ## What is added to a level -/

/-- What waits for a value is of a kind. -/
def Awaits (K : Switch → Prop) (pending : Option (Switch × Option String)) : Prop :=
  ∀ p ∈ pending, K p.1

/-- Settings on switches that are not set yet, of a kind if they are from the command line. -/
def AreNew (K : Switch → Prop) (isSet : Switch → Bool) (added : List Setting) : Prop :=
  ∀ s ∈ added, (s.source = .commandLine → K s.switch) ∧ isSet s.switch = false

/-- What is done to a level depends on what is set there and what waits, not on any value: it fails, or
it puts the same settings in front of those that are there. -/
def Adds (K : Switch → Prop) (f : Level → Except Usage Level) : Prop :=
  ∀ pending isSet, Awaits K pending →
    (∃ usage, ∀ l : Level, l.pending = pending → l.has = isSet → f l = .error usage) ∨
      ∃ added pending', Awaits K pending' ∧ AreNew K isSet added ∧
        ∀ l : Level, l.pending = pending → l.has = isSet → f l = .ok ⟨added ++ l.settings, pending'⟩

variable {K : Switch → Prop} {f g : Level → Except Usage Level}

theorem awaits_none : Awaits K none := fun _ h => by cases h

def orSet (added : List Setting) (isSet : Switch → Bool) (s : Switch) : Bool :=
  added.any (·.switch == s) || isSet s

theorem has_append (added settings : List Setting) (pending : Option (Switch × Option String)) :
    Level.has ⟨added ++ settings, pending⟩ = orSet added (Level.has ⟨settings, pending⟩) := by
  funext s
  exact List.any_append

theorem areNew_nil {isSet : Switch → Bool} : AreNew K isSet [] := fun _ h => by cases h

theorem adds_ok : Adds K .ok := by
  intro pending isSet hpending
  refine .inr ⟨[], pending, hpending, areNew_nil, fun l hl _ => ?_⟩
  rw [← hl]
  rfl

theorem adds_error (usage : Usage) : Adds K fun _ => .error usage :=
  fun _ _ _ => .inl ⟨usage, fun _ _ _ => rfl⟩

theorem AreNew.append {isSet : Switch → Bool} {added added' : List Setting}
    (h' : AreNew K (orSet added isSet) added') (h : AreNew K isSet added) :
    AreNew K isSet (added' ++ added) := by
  intro s hs
  rcases List.mem_append.1 hs with hs | hs
  · exact ⟨(h' s hs).1, (Bool.or_eq_false_iff.1 (h' s hs).2).2⟩
  · exact h s hs

theorem Adds.bind (hf : Adds K f) (hg : Adds K g) : Adds K fun l => f l >>= g := by
  intro pending isSet hpending
  rcases hf pending isSet hpending with ⟨usage, herror⟩ | ⟨added, pending', hpending', hnew, hok⟩
  · refine .inl ⟨usage, fun l hl hset => ?_⟩
    show f l >>= g = _
    rw [herror l hl hset]
    rfl
  · have hset' : ∀ l : Level, l.has = isSet →
        Level.has ⟨added ++ l.settings, pending'⟩ = orSet added isSet := by
      intro l hset
      rw [has_append, ← hset]
      rfl
    rcases hg pending' (orSet added isSet) hpending' with
      ⟨usage, herror⟩ | ⟨added', pending'', hpending'', hnew', hok'⟩
    · refine .inl ⟨usage, fun l hl hset => ?_⟩
      show f l >>= g = _
      rw [hok l hl hset]
      exact herror _ rfl (hset' l hset)
    · refine .inr ⟨added' ++ added, pending'', hpending'', hnew'.append hnew, fun l hl hset => ?_⟩
      show f l >>= g = _
      rw [hok l hl hset, List.append_assoc]
      exact hok' _ rfl (hset' l hset)

theorem adds_set {s : Switch} {source : Source} (h : source = .commandLine → K s) (value : String) :
    Adds K fun l => l.set s source value := by
  intro pending isSet hpending
  have hset : ∀ l : Level, l.has = isSet → l.set s source value =
      if isSet s then .error .repeated
      else (s.checkValue value).map fun _ => { l with settings := ⟨s, source, value⟩ :: l.settings } := by
    intro l hl
    rw [← hl]
    rfl
  cases hs : isSet s with
  | true =>
    refine .inl ⟨.repeated, fun l _ hl => (hset l hl).trans ?_⟩
    rw [hs]
    rfl
  | false =>
    cases hcheck : s.checkValue value with
    | error usage =>
      refine .inl ⟨usage, fun l _ hl => (hset l hl).trans ?_⟩
      rw [hs, hcheck]
      rfl
    | ok _ =>
      refine .inr ⟨[⟨s, source, value⟩], pending, hpending, fun t ht => ?_, fun l hl hl' => (hset l hl').trans ?_⟩
      · rw [List.mem_singleton.1 ht]
        exact ⟨h, hs⟩
      · rw [hs, hcheck, ← hl]
        rfl

theorem adds_settle : Adds K Level.settle := by
  intro pending isSet hpending
  have hsettle : ∀ {settled : Except Usage Level} (l : Level), l.pending = pending →
      Level.settle ⟨l.settings, pending⟩ = settled → l.settle = settled := by
    rintro _ l rfl rfl
    rfl
  rcases pending with _ | ⟨s, _ | value⟩
  · refine .inr ⟨[], none, awaits_none, areNew_nil, fun l hl _ => hsettle l hl rfl⟩
  · exact .inl ⟨.badValue, fun l hl _ => hsettle l hl rfl⟩
  · have hs : Source.commandLine = .commandLine → K s := fun _ => hpending _ rfl
    rcases adds_set hs value none isSet awaits_none with
      ⟨usage, herror⟩ | ⟨added, pending', hpending', hnew, hok⟩
    · exact .inl ⟨usage, fun l hl hset => hsettle l hl (herror { l with pending := none } rfl hset)⟩
    · exact .inr ⟨added, pending', hpending', hnew, fun l hl hset =>
        hsettle l hl (hok { l with pending := none } rfl hset)⟩

theorem adds_await {s : Switch} (h : K s) : Adds K fun l => l.await s := by
  have hwaits : Adds K fun l => .ok { l with pending := some (s, none) } := by
    refine fun pending isSet _ => .inr ⟨[], some (s, none), ?_, areNew_nil, fun l _ _ => rfl⟩
    rintro p hp
    cases hp
    exact h
  exact adds_settle.bind hwaits

theorem adds_give {s : Switch} (h : K s) (value : String) : Adds K fun l => l.give s value :=
  adds_settle.bind (adds_set (fun _ => h) value)

theorem adds_setFrom (env : Environment) (s : Switch) : Adds K fun l => l.setFrom env s := by
  unfold Level.setFrom
  split
  · next value _ =>
    have hnot : Source.environment = .commandLine → K s := fun h => by cases h
    intro pending isSet hpending
    cases hs : isSet s with
    | true =>
      refine .inr ⟨[], pending, hpending, areNew_nil, fun l hl hset => ?_⟩
      show (if l.has s then Except.ok l else _) = _
      rw [hset, hs, ← hl]
      rfl
    | false =>
      have hset' : ∀ l : Level, l.has = isSet →
          (if l.has s then .ok l else l.set s .environment value) = l.set s .environment value := by
        intro l hset
        rw [hset, hs]
        rfl
      rcases adds_set hnot value pending isSet hpending with ⟨usage, herror⟩ | ⟨added, pending', h, h', hok⟩
      · exact .inl ⟨usage, fun l hl hset => (hset' l hset).trans (herror l hl hset)⟩
      · exact .inr ⟨added, pending', h, h', fun l hl hset => (hset' l hset).trans (hok l hl hset)⟩
  · exact adds_ok

theorem adds_foldlM {α : Type} {step : Level → α → Except Usage Level} (h : ∀ a, Adds K (step · a))
    (items : List α) : Adds K fun l => items.foldlM step l := by
  induction items with
  | nil => exact adds_ok
  | cons a items ih =>
    simp only [List.foldlM_cons]
    exact (h a).bind ih

/-! ## What words add -/

theorem adds_turnOn (path : List Verb) {s : Switch} (h : K s) : Adds K fun l => turnOn path l s := by
  unfold turnOn
  refine adds_settle.bind ?_
  have hset : Adds K fun l => l.set s .commandLine "true" := adds_set (fun _ => h) "true"
  cases s with
  | help => exact adds_error _
  | version => exact adds_error _
  | _ => exact hset

theorem Switch.long_of_ofLong? {v : Verb} {name : String} {s : Switch}
    (h : Switch.ofLong? v name = some s) : s.long = name := by
  have := List.find?_some h
  simp only [Bool.and_eq_true, beq_iff_eq] at this
  exact this.1

theorem Switch.short?_of_ofShort? {v : Verb} {c : Char} {s : Switch}
    (h : Switch.ofShort? v c = some s) : s.short? = some c := by
  have := List.find?_some h
  simp only [Bool.and_eq_true, beq_iff_eq] at this
  exact this.1

theorem adds_readLong (path : List Verb) (v : Verb) {word : List Char}
    (h : ∀ s : Switch, s.long.toList <+: word → K s) : Adds K fun l => readLong path v l word := by
  have hK : ∀ s, Switch.ofLong? v (String.ofList (word.takeWhile (· != '='))) = some s → K s := by
    intro s hs
    refine h s ?_
    rw [Switch.long_of_ofLong? hs, String.toList_ofList]
    exact List.takeWhile_prefix _
  unfold readLong
  dsimp only
  split
  · exact adds_error _
  · next s hs _ =>
    split
    · exact adds_await (hK s hs)
    · exact adds_turnOn path (hK s hs)
  · next s _ value hs _ =>
    split
    · exact adds_give (hK s hs) _
    · exact adds_error _

theorem adds_readShort (path : List Verb) (v : Verb) (h : ∀ s : Switch, s.short?.isSome → K s)
    (letters : List Char) : Adds K fun l => readShort path v l letters := by
  induction letters with
  | nil => exact adds_ok
  | cons c rest ih =>
    unfold readShort
    split
    · exact adds_error _
    · next s hs =>
      have hK : K s := h s (Option.isSome_iff_exists.2 ⟨c, Switch.short?_of_ofShort? hs⟩)
      split
      · split
        · exact adds_await hK
        · exact adds_give hK _
        · exact adds_give hK _
      · have hturn := (adds_turnOn path hK).bind ih
        refine cast (congrArg (Adds K) (funext fun l => ?_)) hturn
        cases turnOn path l s with
        | error usage => rfl
        | ok l => rfl

/-! ## What a word is taken for -/

/-- What a word may be taken for. -/
inductive Reading
  | help
  | verb (v : Verb)
  | last
  | long (word : List Char)
  | short (letters : List Char)
  | value
  | stray

/-- What a word is taken for behind a verb. -/
def readingOf (v : Verb) (isAwaited : Bool) (word : String) : Reading :=
  if !isAwaited && v.isHelp word then .help
  else
    match if isAwaited then none else v.follower? word with
    | some w => .verb w
    | none =>
      match word.toList with
      | ['-', '-'] => .last
      | '-' :: '-' :: long => .long long
      | '-' :: c :: letters => .short (c :: letters)
      | _ => if isAwaited then .value else .stray

def readEnd (env : Environment) (v : Verb) (l : Level) : Except Usage Levels := do
  let settings ← l.finish env
  endOfLevel v settings
  return ⟨v, [settings]⟩

/-- What is read from a word on, given what it is taken for. -/
def readAs (env : Environment) (path : List Verb) (v : Verb) (word : String) (rest : List String)
    (l : Level) : Reading → Except Usage Levels
  | .help => .error (helpOn v rest)
  | .verb w => readLevel env (path ++ [w]) w {} rest >>= fun inner =>
      l.finish env >>= fun settings => .ok { inner with settings := settings :: inner.settings }
  | .last =>
    match rest with
    | [] => readEnd env v l
    | stray :: _ => .error (strayWord v true stray)
  | .long long => readLong path v l long >>= fun l => readLevel env path v l rest
  | .short letters => readShort path v l letters >>= fun l => readLevel env path v l rest
  | .value => readLevel env path v (l.take word) rest
  | .stray => .error (strayWord v false word)

theorem readLevel_cons (env : Environment) (path : List Verb) (v : Verb) (l : Level) (word : String)
    (rest : List String) : readLevel env path v l (word :: rest) =
      readAs env path v word rest l (readingOf v l.awaitsValue word) := by
  rw [readLevel.eq_def]
  unfold readingOf
  dsimp only
  split
  · rfl
  · split
    · next hverb =>
      simp only [hverb]
      rfl
    · next hverb hword =>
      simp only [hverb, hword]
      cases rest with
      | nil => rfl
      | cons stray rest => rfl
    · next hlong hverb hword =>
      simp only [hverb, hword]
      rfl
    · next hlong hverb hword =>
      simp only [hverb, hword]
      rfl
    · next hverb hlast hlong hshort =>
      simp only [hverb]
      cases l.awaitsValue with
      | true => rfl
      | false => rfl

/-! ## What reading words adds -/

/-- What is read behind a level depends on what is set there and what waits, not on any value: it fails,
or it puts the same settings in front of those of the level, and the same levels behind it. -/
def Reads (K : Switch → Prop) (pending : Option (Switch × Option String)) (isSet : Switch → Bool)
    (read : Level → Except Usage Levels) : Prop :=
  (∃ usage, ∀ l : Level, l.pending = pending → l.has = isSet → read l = .error usage) ∨
    ∃ verb added inner, AreNew K isSet added ∧
      (∀ level ∈ inner, ∀ s ∈ level, s.source = .commandLine → K s.switch) ∧
      ∀ l : Level, l.pending = pending → l.has = isSet →
        read l = .ok ⟨verb, (added ++ l.settings) :: inner⟩

section

variable {pending : Option (Switch × Option String)} {isSet : Switch → Bool}
  {read : Level → Except Usage Levels}

theorem reads_error (usage : Usage) : Reads K pending isSet fun _ => .error usage :=
  .inl ⟨usage, fun _ _ _ => rfl⟩

theorem Reads.congr (h : Reads K pending isSet read) {read' : Level → Except Usage Levels}
    (heq : ∀ l, l.pending = pending → read' l = read l) : Reads K pending isSet read' := by
  rcases h with ⟨usage, herror⟩ | ⟨verb, added, inner, hnew, hinner, hok⟩
  · exact .inl ⟨usage, fun l hl hset => (heq l hl).trans (herror l hl hset)⟩
  · exact .inr ⟨verb, added, inner, hnew, hinner, fun l hl hset => (heq l hl).trans (hok l hl hset)⟩

theorem Adds.reads (hf : Adds K f) (hpending : Awaits K pending)
    (h : ∀ pending isSet, Awaits K pending → Reads K pending isSet read) :
    Reads K pending isSet fun l => f l >>= read := by
  rcases hf pending isSet hpending with ⟨usage, herror⟩ | ⟨added, pending', hpending', hnew, hok⟩
  · refine .inl ⟨usage, fun l hl hset => ?_⟩
    show f l >>= read = _
    rw [herror l hl hset]
    rfl
  · have hset' : ∀ l : Level, l.has = isSet →
        Level.has ⟨added ++ l.settings, pending'⟩ = orSet added isSet := by
      intro l hset
      rw [has_append, ← hset]
      rfl
    rcases h pending' (orSet added isSet) hpending' with
      ⟨usage, herror⟩ | ⟨verb, added', inner, hnew', hinner, hok'⟩
    · refine .inl ⟨usage, fun l hl hset => ?_⟩
      show f l >>= read = _
      rw [hok l hl hset]
      exact herror _ rfl (hset' l hset)
    · refine .inr ⟨verb, added' ++ added, inner, hnew'.append hnew, hinner, fun l hl hset => ?_⟩
      show f l >>= read = _
      rw [hok l hl hset, List.append_assoc]
      exact hok' _ rfl (hset' l hset)

/-- The last words of a level: it is settled, and the environment adds to it. -/
theorem adds_finish (env : Environment) :
    Adds K fun l => l.settle >>= fun l => Switch.all.foldlM (Level.setFrom env) l :=
  adds_settle.bind (adds_foldlM (adds_setFrom env) Switch.all)

theorem finish_eq (env : Environment) (l : Level) :
    l.finish env = (l.settle >>= fun l => Switch.all.foldlM (Level.setFrom env) l) >>= fun l =>
      .ok l.settings := by
  unfold Level.finish
  rw [bind_assoc]
  rfl

theorem isEmpty_settings (l : Level) : l.settings.isEmpty = !Switch.all.any l.has := by
  cases hl : l.settings with
  | nil =>
    have hnone : ∀ s, l.has s = false := fun s => by
      unfold Level.has
      rw [hl]
      rfl
    have hany : Switch.all.any l.has = false := List.any_eq_false.2 fun s _ => by simp [hnone s]
    rw [hany]
    rfl
  | cons s rest =>
    have hs : l.has s.switch = true := by
      unfold Level.has
      rw [hl]
      exact Bool.or_eq_true_iff.2 (.inl (beq_self_eq_true _))
    have hall : s.switch ∈ Switch.all := by cases s.switch <;> decide
    rw [List.any_eq_true.2 ⟨_, hall, hs⟩]
    rfl

theorem reads_finish (env : Environment) {next : List Setting → Except Usage Levels}
    (h : ∀ pending isSet, Reads K pending isSet fun l => next l.settings)
    (hpending : Awaits K pending) : Reads K pending isSet fun l => l.finish env >>= next := by
  refine Reads.congr ((adds_finish env).reads hpending fun pending isSet _ => h pending isSet) ?_
  intro l _
  rw [finish_eq, bind_assoc]
  rfl

theorem reads_end (env : Environment) (v : Verb) (hpending : Awaits K pending) :
    Reads K pending isSet (readEnd env v) := by
  refine reads_finish env (fun pending isSet => ?_) hpending
  have hend : ∀ l : Level, l.has = isSet → endOfLevel v l.settings =
      if v.followers.isEmpty then .ok ()
      else if !Switch.all.any isSet then .error .nothing else .error .verbMissing := by
    intro l hset
    unfold endOfLevel
    rw [isEmpty_settings, hset]
  cases hrest : (if v.followers.isEmpty then .ok ()
      else if !Switch.all.any isSet then .error .nothing
      else .error .verbMissing : Except Usage Unit) with
  | error usage =>
    refine .inl ⟨usage, fun l _ hset => ?_⟩
    show endOfLevel v l.settings >>= _ = _
    rw [hend l hset, hrest]
    rfl
  | ok _ =>
    refine .inr ⟨v, [], [], areNew_nil, List.forall_mem_nil _, fun l _ hset => ?_⟩
    show endOfLevel v l.settings >>= _ = _
    rw [hend l hset, hrest]
    rfl

/-- Whether a word may be read as switches of a kind only. -/
def Allows (K : Switch → Prop) (word : String) : Prop :=
  ∀ s : Switch, ("--" ++ s.long).toList <+: word.toList → K s

theorem Allows.long {word : String} (h : Allows K word) {v : Verb} {isAwaited : Bool}
    {long : List Char} (hread : readingOf v isAwaited word = .long long) :
    ∀ s : Switch, s.long.toList <+: long → K s := by
  have hword : word.toList = '-' :: '-' :: long := by
    unfold readingOf at hread
    split at hread
    · cases hread
    · split at hread
      · cases hread
      · split at hread
        · cases hread
        · next hword =>
          cases hread
          exact hword
        · cases hread
        · split at hread
          · cases hread
          · cases hread
  intro s hs
  refine h s ?_
  rw [hword, String.toList_append]
  exact (List.prefix_append_right_inj ['-', '-']).2 hs

/-- What reading words does to a level, and which levels it puts behind, depends on what is set there and
what waits; and what it sets is what the words may give. -/
theorem readLevel_adds (env : Environment) (hshort : ∀ s : Switch, s.short?.isSome → K s)
    {words : List String} (hwords : ∀ word ∈ words, Allows K word) (path : List Verb) (v : Verb)
    (pending : Option (Switch × Option String)) (isSet : Switch → Bool) (hpending : Awaits K pending) :
    Reads K pending isSet fun l => readLevel env path v l words := by
  induction words generalizing path v pending isSet with
  | nil => exact reads_end env v hpending
  | cons word rest ih =>
    have ih := fun path v pending isSet hpending =>
      ih (fun w hw => hwords w (List.mem_cons_of_mem word hw)) path v pending isSet hpending
    have hcons : ∀ l : Level, l.pending = pending → readLevel env path v l (word :: rest) =
        readAs env path v word rest l (readingOf v (Level.awaitsValue ⟨[], pending⟩) word) := by
      rintro l rfl
      exact readLevel_cons env path v l word rest
    refine Reads.congr ?_ hcons
    cases hreading : readingOf v (Level.awaitsValue ⟨[], pending⟩) word with
    | help => exact reads_error _
    | stray => exact reads_error _
    | verb w =>
      rcases ih (path ++ [w]) w none (Level.has {}) awaits_none with
        ⟨usage, herror⟩ | ⟨verb, added, inner, hnew, hinner, hok⟩
      · have herror : readLevel env (path ++ [w]) w {} rest = .error usage := herror {} rfl rfl
        refine (reads_error usage).congr fun l _ => ?_
        rw [readAs, herror]
        rfl
      · have hok : readLevel env (path ++ [w]) w {} rest = .ok ⟨verb, (added ++ []) :: inner⟩ :=
          hok {} rfl rfl
        rw [List.append_nil] at hok
        have hbehind : ∀ pending isSet, Reads K pending isSet fun l =>
            .ok ⟨verb, l.settings :: added :: inner⟩ := by
          refine fun pending isSet =>
            .inr ⟨verb, [], added :: inner, areNew_nil, ?_, fun l _ _ => rfl⟩
          exact List.forall_mem_cons.2 ⟨fun s hs => (hnew s hs).1, hinner⟩
        have hread : Reads K pending isSet fun l => l.finish env >>= fun settings =>
            .ok ⟨verb, settings :: added :: inner⟩ := reads_finish env hbehind hpending
        refine hread.congr fun l _ => ?_
        rw [readAs, hok]
        rfl
    | last =>
      cases rest with
      | nil => exact reads_end env v hpending
      | cons stray rest => exact reads_error _
    | long long =>
      have hlong := (hwords word List.mem_cons_self).long hreading
      exact (adds_readLong path v hlong).reads hpending (ih path v)
    | short letters => exact (adds_readShort path v hshort letters).reads hpending (ih path v)
    | value =>
      have htake : Adds K fun l => .ok (l.take word) := by
        intro pending isSet hpending
        refine .inr ⟨[], pending.map fun p => (p.1, some word), ?_, areNew_nil, ?_⟩
        · intro p hp
          obtain ⟨q, hq, rfl⟩ := Option.map_eq_some_iff.1 hp
          exact hpending q hq
        · rintro l rfl -
          rfl
      exact htake.reads hpending (ih path v)

end

end Enrollment.Invocation

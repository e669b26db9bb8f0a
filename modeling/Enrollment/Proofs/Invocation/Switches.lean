import Enrollment.Proofs.Invocation.ApiKey
import Enrollment.Settings.Validation
/-!
# What a word says of a switch

The values that a command line gives to a switch, as they are written: behind the name of the switch
or behind its letter, in the same word or in the next one (`Gives`). A word that is taken as switches
sets what it gives and awaits what it announces, and nothing else that takes a value.

Results:
 1. `settle_ok`, `give_ok`, `finish_ok` and their like: what becomes of a level.
 2. `readLong_ok`, `readShort_cons_ok`: what is read of a word with switches.
 3. `takes_long`, `takes_short`: what such a word does to a level.
-/

namespace Enrollment.Invocation

open Settings (ok_of_bind)

/-! ## How values are written -/

/-- The value that stands behind the letter of a switch, perhaps behind an equals sign. -/
def valueBehind? : List Char → Option String
  | [] => none
  | '=' :: value => some (String.ofList value)
  | value => some (String.ofList value)

/-- What letters behind one dash say of a switch: a value for it, or that one comes next. -/
inductive TellsInLetters (s : Switch) : List Char → Option String → Prop
  | here {c : Char} (hc : s.short? = some c) (rest : List Char) :
      TellsInLetters s (c :: rest) (valueBehind? rest)
  | behind {c : Char} {other : Switch} (hc : other.short? = some c) (hother : other.takesValue = false)
      {letters : List Char} {value : Option String} (h : TellsInLetters s letters value) :
      TellsInLetters s (c :: letters) value

/-- What a word says of a switch: a value for it, or that one comes next. -/
inductive Tells (s : Switch) : List Char → Option String → Prop
  | long : Tells s ('-' :: '-' :: s.long.toList) none
  | longEquals (value : String) :
      Tells s ('-' :: '-' :: (s.long.toList ++ '=' :: value.toList)) (some value)
  | short {letters : List Char} {value : Option String} (h : TellsInLetters s letters value) :
      Tells s ('-' :: letters) value

inductive Gives (s : Switch) (value : String) (words : List String) : Prop
  | within (word : String) (h : Tells s word.toList (some value)) (hword : word ∈ words)
  | behind (word : String) (h : Tells s word.toList none) (hwords : [word, value] <:+: words)

def Environs (env : Environment) (s : Switch) (value : String) : Prop :=
  s.environmentName?.bind env.value? = some value

def Names (env : Environment) (words : List String) (s : Switch) (value : String) : Prop :=
  Gives s value words ∨ Environs env s value

variable {s : Switch} {value : String} {word : String} {words rest : List String} {path : List Verb}
  {v : Verb} {l l' : Level} {env : Environment} {x : Setting}

theorem Gives.cons (h : Gives s value rest) : Gives s value (word :: rest) := by
  cases h with
  | within word' h hword => exact .within word' h (List.mem_cons_of_mem word hword)
  | behind word' h hwords => exact .behind word' h (hwords.trans (List.suffix_cons word rest).isInfix)

theorem TellsInLetters.first {letters : List Char} {o : Option String} (h : TellsInLetters s letters o) :
    ∃ (other : Switch) (c : Char) (more : List Char), letters = c :: more ∧ other.short? = some c := by
  cases h with
  | here hc rest => exact ⟨s, _, rest, rfl, hc⟩
  | behind hc hother h => exact ⟨_, _, _, rfl, hc⟩

theorem short?_ne_dash (s : Switch) : s.short? ≠ some '-' := by
  cases s <;> decide

theorem long_ne_nil (s : Switch) : s.long.toList ≠ [] := by
  cases s <;> decide

/-- What a word that says something of a switch is made of. -/
theorem Tells.dash {letters : List Char} {o : Option String} (h : Tells s letters o) :
    ∃ c more, letters = '-' :: c :: more ∧ (c :: more ≠ ['-']) := by
  cases h with
  | long =>
    refine ⟨'-', _, rfl, ?_⟩
    intro heq
    exact long_ne_nil s (List.cons.inj heq).2
  | longEquals value =>
    refine ⟨'-', _, rfl, ?_⟩
    intro heq
    exact List.append_ne_nil_of_left_ne_nil (long_ne_nil s) _ (List.cons.inj heq).2
  | short h =>
    obtain ⟨other, c, more, rfl, hc⟩ := h.first
    refine ⟨c, more, rfl, ?_⟩
    intro heq
    exact short?_ne_dash other (hc.trans (congrArg some (List.cons.inj heq).1))

/-- What a word with one dash says is said by its letters. -/
theorem Tells.letters {letters : List Char} {o : Option String} (h : Tells s ('-' :: letters) o)
    (hdash : letters.head? ≠ some '-') : TellsInLetters s letters o := by
  generalize hword : '-' :: letters = word at h
  cases h with
  | long =>
    cases hword
    exact absurd rfl hdash
  | longEquals value =>
    cases hword
    exact absurd rfl hdash
  | short h =>
    cases hword
    exact h

def SaysNothing (word : String) : Prop :=
  ∀ s o, ¬ Tells s word.toList o

theorem saysNothing_of_verb {w : Verb} (h : v.follower? word = some w) : SaysNothing word := by
  intro s o htells
  obtain ⟨c, more, hword, -⟩ := htells.dash
  rw [(follower?_of_dash v (by rw [hword]; rfl)).1] at h
  cases h

theorem saysNothing_of_plain (h : ∀ c more, word.toList ≠ '-' :: c :: more) : SaysNothing word := by
  intro s o htells
  obtain ⟨c, more, hword, -⟩ := htells.dash
  exact h c more hword

theorem saysNothing_of_dashes (h : word.toList = ['-', '-']) : SaysNothing word := by
  intro s o htells
  obtain ⟨c, more, hword, hne⟩ := htells.dash
  rw [h] at hword
  exact hne (List.cons.inj hword).2.symm

/-! ## Levels -/

/-- What was read of a level, with the value that is not looked at yet. -/
def Level.gathered (l : Level) : List Setting :=
  match l.pending with
  | some (s, some value) => ⟨s, .commandLine, value⟩ :: l.settings
  | _ => l.settings

/-- A level can be gone on with: no value is missing. -/
def Level.IsComplete (l : Level) : Prop :=
  ∀ s, l.pending ≠ some (s, none)

theorem gathered_of_none (h : l.pending = none) : l.gathered = l.settings := by
  rw [Level.gathered, h]

theorem set_ok {source : Source} (h : l.set s source value = .ok l') :
    l' = { l with settings := ⟨s, source, value⟩ :: l.settings } := by
  unfold Level.set at h
  split at h
  · cases h
  · cases hcheck : s.checkValue value with
    | error usage =>
      rw [hcheck] at h
      cases h
    | ok _ =>
      rw [hcheck] at h
      cases h
      rfl

theorem settle_ok (h : l.settle = .ok l') : l' = ⟨l.gathered, none⟩ ∧ l.IsComplete := by
  unfold Level.settle at h
  split at h
  · next hnone =>
    cases h
    refine ⟨?_, fun s hs => by rw [hnone] at hs; cases hs⟩
    rw [gathered_of_none hnone, ← hnone]
  · cases h
  · next s value hsome =>
    refine ⟨?_, fun s' hs => by rw [hsome] at hs; cases hs⟩
    rw [set_ok h, Level.gathered, hsome]

theorem await_ok (h : l.await s = .ok l') :
    l' = ⟨l.gathered, some (s, none)⟩ ∧ l.IsComplete := by
  obtain ⟨settled, hsettle, h⟩ := ok_of_bind h
  cases h
  obtain ⟨rfl, hcomplete⟩ := settle_ok hsettle
  exact ⟨rfl, hcomplete⟩

theorem give_ok (h : l.give s value = .ok l') :
    l' = ⟨⟨s, .commandLine, value⟩ :: l.gathered, none⟩ ∧ l.IsComplete := by
  obtain ⟨settled, hsettle, h⟩ := ok_of_bind h
  obtain ⟨rfl, hcomplete⟩ := settle_ok hsettle
  exact ⟨set_ok h, hcomplete⟩

theorem turnOn_ok (h : turnOn path l s = .ok l') :
    l' = ⟨⟨s, .commandLine, "true"⟩ :: l.gathered, none⟩ ∧ l.IsComplete := by
  obtain ⟨settled, hsettle, h⟩ := ok_of_bind h
  obtain ⟨rfl, hcomplete⟩ := settle_ok hsettle
  refine ⟨?_, hcomplete⟩
  cases s with
  | help => cases h
  | version => cases h
  | _ => exact set_ok h

/-- What the environment adds to a level. -/
theorem setFrom_ok (h : l.setFrom env s = .ok l') :
    ∃ added, l' = ⟨added ++ l.settings, l.pending⟩ ∧
      (∀ x ∈ added, x.source = .environment ∧ Environs env x.switch x.value) ∧
      ∀ value, Environs env s value → l'.has s = true := by
  unfold Level.setFrom at h
  split at h
  · next value hvalue =>
    split at h
    · next hhas =>
      cases h
      exact ⟨[], rfl, List.forall_mem_nil _, fun _ _ => hhas⟩
    · obtain rfl := set_ok h
      refine ⟨[⟨s, .environment, value⟩], rfl, ?_, fun _ _ => ?_⟩
      · intro x hx
        cases List.mem_singleton.1 hx
        exact ⟨rfl, hvalue⟩
      · simp [Level.has]
  · next hnone =>
    cases h
    refine ⟨[], rfl, List.forall_mem_nil _, fun value hvalue => ?_⟩
    rw [Environs, hnone] at hvalue
    cases hvalue

theorem has_of_append {added : List Setting} (h : l.has s = true) :
    Level.has ⟨added ++ l.settings, l.pending⟩ s = true := by
  rw [has_append]
  exact Bool.or_eq_true_iff.2 (.inr h)

theorem foldlM_setFrom_ok {switches : List Switch} (h : switches.foldlM (Level.setFrom env) l = .ok l') :
    ∃ added, l' = ⟨added ++ l.settings, l.pending⟩ ∧
      (∀ x ∈ added, x.source = .environment ∧ Environs env x.switch x.value) ∧
      ∀ s ∈ switches, ∀ value, Environs env s value → l'.has s = true := by
  induction switches generalizing l with
  | nil =>
    cases h
    exact ⟨[], rfl, List.forall_mem_nil _, List.forall_mem_nil _⟩
  | cons s switches ih =>
    rw [List.foldlM_cons] at h
    obtain ⟨l₁, hfirst, h⟩ := ok_of_bind h
    obtain ⟨added, rfl, hadded, hhas⟩ := setFrom_ok hfirst
    obtain ⟨more, rfl, hmore, hrest⟩ := ih h
    refine ⟨more ++ added, by rw [List.append_assoc], ?_, ?_⟩
    · exact List.forall_mem_append.2 ⟨hmore, hadded⟩
    · exact List.forall_mem_cons.2 ⟨fun value hvalue => has_of_append (hhas value hvalue), hrest⟩

/-- What a level comes to at its end. -/
theorem finish_ok {settings : List Setting} (h : l.finish env = .ok settings) :
    l.IsComplete ∧ (∀ x ∈ l.gathered, x ∈ settings) ∧
      (∀ x ∈ settings, x ∈ l.gathered ∨ x.source = .environment ∧ Environs env x.switch x.value) ∧
      ∀ s value, Environs env s value → ∃ x ∈ settings, x.switch = s := by
  obtain ⟨settled, hsettle, h⟩ := ok_of_bind h
  obtain ⟨rfl, hcomplete⟩ := settle_ok hsettle
  obtain ⟨l₁, hfold, h⟩ := ok_of_bind h
  cases h
  obtain ⟨added, rfl, hadded, hhas⟩ := foldlM_setFrom_ok hfold
  refine ⟨hcomplete, fun x hx => List.mem_append_right _ hx, ?_, ?_⟩
  · intro x hx
    rcases List.mem_append.1 hx with hx | hx
    · exact .inr (hadded x hx)
    · exact .inl hx
  · intro s value hvalue
    have hset := hhas s (by cases s <;> decide) value hvalue
    obtain ⟨x, hx, hswitch⟩ := List.any_eq_true.1 hset
    exact ⟨x, hx, eq_of_beq hswitch⟩

/-! ## What a word with switches does -/

/-- A word is taken as switches. It sets those that it gives a value, and no other one that takes a
value; it has the next word be the value that it announces. -/
structure Takes (T : Switch → Option String → Prop) (l l' : Level) : Prop where
  complete : l.IsComplete
  keeps : ∀ x ∈ l.gathered, x ∈ l'.settings
  sets : ∀ x ∈ l'.settings, x ∈ l.gathered ∨ x.switch.takesValue = false ∨ T x.switch (some x.value)
  awaits : ∀ s o, l'.pending = some (s, o) → o = none ∧ T s none
  announced : ∀ s, s.takesValue = true → T s none → l'.pending = some (s, none)
  given : ∀ s value, s.takesValue = true → T s (some value) →
    (⟨s, .commandLine, value⟩ : Setting) ∈ l'.settings

theorem Takes.congr {T T' : Switch → Option String → Prop} (h : Takes T l l')
    (hT : ∀ s o, T s o → T' s o) (hT' : ∀ s o, s.takesValue = true → T' s o → T s o) :
    Takes T' l l' where
  complete := h.complete
  keeps := h.keeps
  sets x hx := (h.sets x hx).imp_right (Or.imp_right (hT _ _))
  awaits s o ho := (h.awaits s o ho).imp_right (hT _ _)
  announced s hs ho := h.announced s hs (hT' _ _ hs ho)
  given s value hs ho := h.given s value hs (hT' _ _ hs ho)

/-- Takes a switch with a value, or lets it wait for one. -/
def Level.receive (l : Level) (s : Switch) : Option String → Except Usage Level
  | none => l.await s
  | some value => l.give s value

/-- A switch with its value, or one that waits for it. -/
theorem takes_value {o : Option String} (h : l.receive s o = .ok l') :
    Takes (fun s' o' => s' = s ∧ o' = o) l l' := by
  cases o with
  | none =>
    obtain ⟨rfl, hcomplete⟩ := await_ok h
    refine ⟨hcomplete, fun x hx => hx, fun x hx => .inl hx, ?_, ?_, ?_⟩
    · rintro s' o ho
      cases ho
      exact ⟨rfl, rfl, rfl⟩
    · rintro s' - ⟨rfl, -⟩
      rfl
    · rintro s' value - ⟨-, ho⟩
      cases ho
  | some value =>
    obtain ⟨rfl, hcomplete⟩ := give_ok h
    refine ⟨hcomplete, fun x hx => List.mem_cons_of_mem _ hx, ?_, ?_, ?_, ?_⟩
    · intro x hx
      rcases List.mem_cons.1 hx with rfl | hx
      · exact .inr (.inr ⟨rfl, rfl⟩)
      · exact .inl hx
    · rintro s' o ho
      cases ho
    · rintro s' - ⟨-, ho⟩
      cases ho
    · rintro s' value' - ⟨rfl, ho⟩
      cases ho
      exact List.mem_cons_self

/-- A switch without a value. -/
theorem takes_turnOn (h : turnOn path l s = .ok l') (hs : s.takesValue = false) :
    Takes (fun _ _ => False) l l' := by
  obtain ⟨rfl, hcomplete⟩ := turnOn_ok h
  refine ⟨hcomplete, fun x hx => List.mem_cons_of_mem _ hx, ?_, ?_, fun _ _ => False.elim,
    fun _ _ _ => False.elim⟩
  · intro x hx
    rcases List.mem_cons.1 hx with rfl | hx
    · exact .inr (.inl hs)
    · exact .inl hx
  · rintro s' o ho
    cases ho

/-- A word goes on behind switches without a value. -/
theorem Takes.behind {T : Switch → Option String → Prop} {l₁ : Level}
    (hfirst : Takes (fun _ _ => False) l l₁) (h : Takes T l₁ l') : Takes T l l' := by
  have hnone : l₁.pending = none := by
    cases hpending : l₁.pending with
    | none => rfl
    | some p => exact (hfirst.awaits p.1 p.2 hpending).2.elim
  have hgathered : l₁.gathered = l₁.settings := gathered_of_none hnone
  refine ⟨hfirst.complete, fun x hx => ?_, fun x hx => ?_, h.awaits, h.announced, h.given⟩
  · exact h.keeps x (hgathered ▸ hfirst.keeps x hx)
  · rcases h.sets x hx with hx | hx
    · rcases hfirst.sets x (hgathered ▸ hx) with hx | hx | hx
      · exact .inl hx
      · exact .inr (.inl hx)
      · exact hx.elim
    · exact .inr hx

/-! ## Names -/

theorem mayFollow_version (s : Switch) : s.mayFollow .version = true := by
  cases s <;> rfl

theorem eq_of_long {s' : Switch} (h : s.long = s'.long) : s = s' := by
  have hs := Switch.ofLong?_long (mayFollow_version s)
  rw [h, Switch.ofLong?_long (mayFollow_version s')] at hs
  exact (Option.some.inj hs).symm

/-- A value behind an equals sign, or nothing. -/
def equalsValue : Option String → List Char
  | none => []
  | some value => '=' :: value.toList

theorem equalsValue_inj {o o' : Option String} (h : equalsValue o = equalsValue o') : o = o' := by
  cases o with
  | none =>
    cases o' with
    | none => rfl
    | some value' => cases h
  | some value =>
    cases o' with
    | none => cases h
    | some value' => rw [String.toList_injective (List.cons.inj h).2]

/-- A name ends where an equals sign stands. -/
theorem cut_long (s : Switch) (o : Option String) :
    (s.long.toList ++ equalsValue o).takeWhile (· != '=') = s.long.toList ∧
      (s.long.toList ++ equalsValue o).dropWhile (· != '=') = equalsValue o := by
  have hname : ∀ c ∈ s.long.toList, (c != '=') = true := by
    refine List.all_eq_true.1 ?_
    cases s <;> rfl
  rw [List.takeWhile_append_of_pos hname, List.dropWhile_append_of_pos hname]
  cases o with
  | none => exact ⟨List.append_nil _, rfl⟩
  | some value => exact ⟨List.append_nil _, rfl⟩

/-- A name and a value behind it are read off from where the equals sign stands. -/
theorem eq_of_long_append {s' : Switch} {o o' : Option String}
    (h : s'.long.toList ++ equalsValue o' = s.long.toList ++ equalsValue o) : s' = s ∧ o' = o := by
  have hname := congrArg (List.takeWhile (· != '=')) h
  have hvalue := congrArg (List.dropWhile (· != '=')) h
  rw [(cut_long s' o').1, (cut_long s o).1] at hname
  rw [(cut_long s' o').2, (cut_long s o).2] at hvalue
  exact ⟨eq_of_long (String.toList_injective hname), equalsValue_inj hvalue⟩

/-- What a word with two dashes says. -/
theorem tells_long_iff {long : List Char} {o : Option String} :
    Tells s ('-' :: '-' :: long) o ↔ long = s.long.toList ++ equalsValue o := by
  constructor
  · intro h
    generalize hword : '-' :: '-' :: long = word at h
    cases h with
    | long =>
      cases hword
      exact (List.append_nil _).symm
    | longEquals value =>
      cases hword
      rfl
    | short h =>
      cases hword
      obtain ⟨other, c, more, heq, hc⟩ := h.first
      cases heq
      exact absurd hc (short?_ne_dash other)
  · rintro rfl
    cases o with
    | none =>
      rw [equalsValue, List.append_nil]
      exact .long
    | some value => exact .longEquals value

/-- What is read behind two dashes, and what is done with it. -/
theorem readLong_ok {long : List Char} (h : readLong path v l long = .ok l') :
    ∃ s o, long = s.long.toList ++ equalsValue o ∧
      (s.takesValue = true ∧ l.receive s o = .ok l' ∨
        s.takesValue = false ∧ turnOn path l s = .ok l') := by
  have hsplit : long.takeWhile (· != '=') ++ long.dropWhile (· != '=') = long :=
    List.takeWhile_append_dropWhile
  unfold readLong at h
  dsimp only at h
  split at h
  · cases h
  · next s hswitch hdrop =>
    refine ⟨s, none, ?_, ?_⟩
    · rw [Switch.long_of_ofLong? hswitch, String.toList_ofList, equalsValue, ← hdrop, hsplit]
    · split at h
      · next hs => exact .inl ⟨hs, h⟩
      · next hs => exact .inr ⟨Bool.eq_false_iff.2 hs, h⟩
  · next s c value hswitch hdrop =>
    have hequals : c = '=' := by
      have hhead := List.head_dropWhile_not (· != '=') (l := long) (by rw [hdrop]; simp)
      simpa [hdrop] using hhead
    subst hequals
    refine ⟨s, some (String.ofList value), ?_, ?_⟩
    · rw [Switch.long_of_ofLong? hswitch, String.toList_ofList, equalsValue, String.toList_ofList,
        ← hdrop, hsplit]
    · split at h
      · next hs => exact .inl ⟨hs, h⟩
      · cases h

/-- A word with two dashes is taken as it says. -/
theorem takes_long {long : List Char} (h : readLong path v l long = .ok l') :
    Takes (Tells · ('-' :: '-' :: long) ·) l l' := by
  obtain ⟨s, o, hlong, hread⟩ := readLong_ok h
  have htold : ∀ s' o', Tells s' ('-' :: '-' :: long) o' → s' = s ∧ o' = o := by
    intro s' o' htells
    exact eq_of_long_append ((tells_long_iff.1 htells).symm.trans hlong)
  rcases hread with ⟨-, hreceive⟩ | ⟨hs, hturn⟩
  · refine (takes_value hreceive).congr ?_ fun s' o' _ => htold s' o'
    rintro s' o' ⟨rfl, rfl⟩
    exact tells_long_iff.2 hlong
  · refine (takes_turnOn hturn hs).congr (fun _ _ => False.elim) ?_
    intro s' o' hs' htells
    obtain ⟨rfl, -⟩ := htold s' o' htells
    cases hs.symm.trans hs'

/-! ## Letters -/

theorem eq_of_short? {s' : Switch} {c : Char} (h : s.short? = some c) (h' : s'.short? = some c) :
    s' = s := by
  have hs := Switch.ofShort?_short (mayFollow_version s) h
  rw [Switch.ofShort?_short (mayFollow_version s') h'] at hs
  exact Option.some.inj hs

theorem valueBehind?_of_plain {letters : List Char} (hsome : letters ≠ [])
    (hequals : ∀ value, letters ≠ '=' :: value) :
    valueBehind? letters = some (String.ofList letters) := by
  unfold valueBehind?
  split
  · exact absurd rfl hsome
  · exact absurd rfl (hequals _)
  · rfl

/-- Letters in front of which one stands whose switch takes a value. -/
theorem tellsInLetters_valued_iff {c : Char} {rest : List Char} {s' : Switch} {o : Option String}
    (hc : s.short? = some c) (hs : s.takesValue = true) :
    TellsInLetters s' (c :: rest) o ↔ s' = s ∧ o = valueBehind? rest := by
  constructor
  · intro h
    cases h with
    | here hc' => exact ⟨eq_of_short? hc hc', rfl⟩
    | behind hc' hother h =>
      cases eq_of_short? hc hc'
      cases hs.symm.trans hother
  · rintro ⟨rfl, rfl⟩
    exact .here hc rest

/-- Letters in front of which one stands whose switch takes no value. -/
theorem tellsInLetters_turned_iff {c : Char} {rest : List Char} {s' : Switch} {o : Option String}
    (hc : s.short? = some c) (hs : s.takesValue = false) (hs' : s'.takesValue = true) :
    TellsInLetters s' (c :: rest) o ↔ TellsInLetters s' rest o := by
  constructor
  · intro h
    cases h with
    | here hc' =>
      cases eq_of_short? hc hc'
      cases hs.symm.trans hs'
    | behind hc' hother h => exact h
  · exact .behind hc hs

/-- What is read of a letter, and what is done with it. -/
theorem readShort_cons_ok {c : Char} {rest : List Char}
    (h : readShort path v l (c :: rest) = .ok l') :
    ∃ s : Switch, s.short? = some c ∧
      (s.takesValue = true ∧ l.receive s (valueBehind? rest) = .ok l' ∨
        s.takesValue = false ∧
          ∃ l₁, turnOn path l s = .ok l₁ ∧ readShort path v l₁ rest = .ok l') := by
  unfold readShort at h
  split at h
  · cases h
  next s hswitch =>
  refine ⟨s, Switch.short?_of_ofShort? hswitch, ?_⟩
  cases hs : s.takesValue with
  | true =>
    rw [hs, if_pos rfl] at h
    refine .inl ⟨rfl, ?_⟩
    split at h
    · exact h
    · exact h
    · next hsome hequals =>
      rw [valueBehind?_of_plain hsome hequals]
      exact h
  | false =>
    rw [hs, if_neg Bool.false_ne_true] at h
    refine .inr ⟨rfl, ?_⟩
    cases hturn : turnOn path l s with
    | error usage =>
      rw [hturn] at h
      cases h
    | ok l₁ =>
      rw [hturn] at h
      exact ⟨l₁, rfl, h⟩

/-- Letters behind one dash are taken as they say. -/
theorem takes_short {letters : List Char} (h : readShort path v l letters = .ok l')
    (hne : letters ≠ []) : Takes (TellsInLetters · letters ·) l l' := by
  induction letters generalizing l with
  | nil => exact absurd rfl hne
  | cons c rest ih =>
    obtain ⟨s, hc, ⟨hs, hreceive⟩ | ⟨hs, l₁, hturn, hread⟩⟩ := readShort_cons_ok h
    · refine (takes_value hreceive).congr ?_ ?_
      · intro s' o hsame
        exact (tellsInLetters_valued_iff hc hs).2 hsame
      · rintro s' o - htells
        exact (tellsInLetters_valued_iff hc hs).1 htells
    · have hfirst := takes_turnOn hturn hs
      by_cases hrest : rest = []
      · subst hrest
        cases hread
        refine hfirst.congr (fun _ _ => False.elim) ?_
        intro s' o hs' htells
        cases (tellsInLetters_turned_iff hc hs hs').1 htells
      · refine (hfirst.behind (ih hread hrest)).congr ?_ ?_
        · intro s' o htells
          exact .behind hc hs htells
        · intro s' o hs' htells
          exact (tellsInLetters_turned_iff hc hs hs').1 htells

end Enrollment.Invocation

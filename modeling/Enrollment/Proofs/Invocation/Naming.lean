import Enrollment.Proofs.Invocation.Switches
/-!
# What a command line names

A command line that can be followed sets a switch to the values that are written there, and to none
else; so a switch has a value just when one is written, or when the environment has one for it.

Results:
 1. `gathers_of_readLevel`: how the words of a command line that can be followed are taken.
 2. `Gathers.sound`, `Gathers.complete`: the values that are set are the ones that are written.
 3. `value?_named`, `settingsPath_named`: where the value of a switch, and the path of the settings,
    comes from.
-/

namespace Enrollment.Invocation

open Settings (ok_of_bind)

variable {s : Switch} {value : String} {word : String} {words rest : List String} {path : List Verb}
  {v : Verb} {l l' : Level} {env : Environment} {x : Setting}

/-! ## How words are taken -/

/-- What a word is made of that is taken for something. -/
def Reading.Fits (v : Verb) (isAwaited : Bool) (word : String) : Reading → Prop
  | .verb w => v.follower? word = some w
  | .last => word.toList = ['-', '-']
  | .long name => word.toList = '-' :: '-' :: name
  | .short letters => word.toList = '-' :: letters ∧ letters ≠ [] ∧ letters.head? ≠ some '-'
  | .value => isAwaited = true ∧ ∀ c more, word.toList ≠ '-' :: c :: more
  | .help => True
  | .stray => True

theorem fits_readingOf (v : Verb) (isAwaited : Bool) (word : String) :
    (readingOf v isAwaited word).Fits v isAwaited word := by
  unfold readingOf
  split
  · trivial
  split
  · next w hverb =>
    cases isAwaited with
    | true => cases hverb
    | false =>
      rw [if_neg Bool.false_ne_true] at hverb
      exact hverb
  · split
    · next hword => exact hword
    · next hword => exact hword
    · next hlast hlong hword =>
      exact ⟨hword, List.cons_ne_nil _ _, fun hdash => hlong (Option.some.inj hdash)⟩
    · next hlast hlong hshort =>
      split
      · next hawaited => exact ⟨hawaited, hshort⟩
      · trivial

/-- How the words behind a level are taken, and the levels that they come to. -/
inductive Gathers (env : Environment) : Level → List String → List (List Setting) → Prop
  | ended {l : Level} {settings : List Setting} (hfinish : l.finish env = .ok settings) :
      Gathers env l [] [settings]
  | closed {l : Level} {settings : List Setting} {word : String} (hword : SaysNothing word)
      (hfinish : l.finish env = .ok settings) : Gathers env l [word] [settings]
  | verb {l : Level} {settings : List Setting} {word : String} {rest : List String}
      {inner : List (List Setting)} (hword : SaysNothing word)
      (hfinish : l.finish env = .ok settings) (hinner : Gathers env {} rest inner) :
      Gathers env l (word :: rest) (settings :: inner)
  | switches {l l' : Level} {word : String} {rest : List String} {levels : List (List Setting)}
      (htakes : Takes (Tells · word.toList ·) l l') (hrest : Gathers env l' rest levels) :
      Gathers env l (word :: rest) levels
  | value {l : Level} {s : Switch} {word : String} {rest : List String}
      {levels : List (List Setting)} (hword : SaysNothing word) (hpending : l.pending = some (s, none))
      (hrest : Gathers env (l.take word) rest levels) : Gathers env l (word :: rest) levels

theorem finish_of_readEnd {ls : Levels} (h : readEnd env v l = .ok ls) :
    ∃ settings, l.finish env = .ok settings ∧ ls.settings = [settings] := by
  obtain ⟨settings, hfinish, h⟩ := ok_of_bind h
  obtain ⟨-, -, h⟩ := ok_of_bind h
  cases h
  exact ⟨settings, hfinish, rfl⟩

/-- The words of a command line that can be followed are taken so. -/
theorem gathers_of_readLevel {ls : Levels} (h : readLevel env path v l words = .ok ls) :
    Gathers env l words ls.settings := by
  induction words generalizing path v l ls with
  | nil =>
    obtain ⟨settings, hfinish, hls⟩ := finish_of_readEnd h
    rw [hls]
    exact .ended hfinish
  | cons word rest ih =>
    rw [readLevel_cons] at h
    have hfits := fits_readingOf v l.awaitsValue word
    cases hreading : readingOf v l.awaitsValue word with
    | help =>
      rw [hreading] at h
      cases h
    | stray =>
      rw [hreading] at h
      cases h
    | verb w =>
      rw [hreading] at h hfits
      obtain ⟨inner, hinner, h⟩ := ok_of_bind h
      obtain ⟨settings, hfinish, h⟩ := ok_of_bind h
      cases h
      exact .verb (saysNothing_of_verb hfits) hfinish (ih hinner)
    | last =>
      rw [hreading] at h hfits
      cases rest with
      | nil =>
        obtain ⟨settings, hfinish, hls⟩ := finish_of_readEnd h
        rw [hls]
        exact .closed (saysNothing_of_dashes hfits) hfinish
      | cons stray rest => cases h
    | long long =>
      rw [hreading] at h hfits
      obtain ⟨l', hlong, h⟩ := ok_of_bind h
      have htakes := takes_long hlong
      rw [← show word.toList = '-' :: '-' :: long from hfits] at htakes
      exact .switches htakes (ih h)
    | short letters =>
      rw [hreading] at h hfits
      obtain ⟨hword, hne, hdash⟩ := hfits
      obtain ⟨l', hshort, h⟩ := ok_of_bind h
      have htakes : Takes (Tells · ('-' :: letters) ·) l l' := by
        refine (takes_short hshort hne).congr (fun s o htells => Tells.short htells) ?_
        intro s o hs htells
        exact htells.letters hdash
      rw [← hword] at htakes
      exact .switches htakes (ih h)
    | value =>
      rw [hreading] at h hfits
      obtain ⟨hawaited, hword⟩ := hfits
      obtain ⟨s, hpending⟩ : ∃ s, l.pending = some (s, none) := by
        unfold Level.awaitsValue at hawaited
        split at hawaited
        · next s hpending => exact ⟨s, hpending⟩
        · cases hawaited
      exact .value (saysNothing_of_plain hword) hpending (ih h)

/-! ## What is set is what is written -/

theorem mem_gathered (h : x ∈ l.settings) : x ∈ l.gathered := by
  unfold Level.gathered
  split
  · exact List.mem_cons_of_mem _ h
  · exact h

theorem gathered_of_awaited (h : l.pending = some (s, none)) : l.gathered = l.settings := by
  rw [Level.gathered, h]

theorem gathered_take (h : l.pending = some (s, none)) (word : String) :
    (l.take word).gathered = ⟨s, .commandLine, word⟩ :: l.settings := by
  rw [Level.take, h]
  rfl

/-- What was set before stays set. -/
theorem Gathers.keeps {levels : List (List Setting)} (h : Gathers env l words levels)
    (hx : x ∈ l.gathered) : ∃ level ∈ levels, x ∈ level := by
  induction h with
  | ended hfinish => exact ⟨_, List.mem_cons_self, (finish_ok hfinish).2.1 x hx⟩
  | closed hword hfinish => exact ⟨_, List.mem_cons_self, (finish_ok hfinish).2.1 x hx⟩
  | verb hword hfinish hinner ih => exact ⟨_, List.mem_cons_self, (finish_ok hfinish).2.1 x hx⟩
  | switches htakes hrest ih => exact ih (mem_gathered (htakes.keeps x hx))
  | value hword hpending hrest ih =>
    rw [gathered_of_awaited hpending] at hx
    refine ih ?_
    rw [gathered_take hpending]
    exact List.mem_cons_of_mem _ hx

/-- A value that is awaited is set. -/
theorem Gathers.awaited {levels : List (List Setting)} (h : Gathers env l (word :: rest) levels)
    (hpending : l.pending = some (s, none)) :
    ∃ level ∈ levels, (⟨s, .commandLine, word⟩ : Setting) ∈ level := by
  cases h with
  | closed hword hfinish => exact absurd hpending ((finish_ok hfinish).1 s)
  | verb hword hfinish hinner => exact absurd hpending ((finish_ok hfinish).1 s)
  | switches htakes hrest => exact absurd hpending (htakes.complete s)
  | value hword hpending' hrest =>
    cases hpending.symm.trans hpending'
    refine hrest.keeps ?_
    rw [gathered_take hpending]
    exact List.mem_cons_self

theorem Gives.of_cons (hword : SaysNothing word) (h : Gives s value (word :: rest)) :
    Gives s value rest := by
  cases h with
  | within word' htells hmem =>
    rcases List.mem_cons.1 hmem with rfl | hmem
    · exact absurd htells (hword s _)
    · exact .within word' htells hmem
  | behind word' htells hwords =>
    rcases List.infix_cons_iff.1 hwords with hprefix | hinfix
    · cases (List.cons_prefix_cons.1 hprefix).1
      exact absurd htells (hword s _)
    · exact .behind word' htells hinfix

/-- Every value that is written is set. -/
theorem Gathers.complete {levels : List (List Setting)} (h : Gathers env l words levels)
    (hs : s.takesValue = true) (hgives : Gives s value words) :
    ∃ level ∈ levels, (⟨s, .commandLine, value⟩ : Setting) ∈ level := by
  induction h with
  | ended hfinish =>
    cases hgives with
    | within word htells hmem => cases hmem
    | behind word htells hwords => cases List.infix_nil.1 hwords
  | closed hword hfinish =>
    cases hgives.of_cons hword with
    | within word htells hmem => cases hmem
    | behind word htells hwords => cases List.infix_nil.1 hwords
  | verb hword hfinish hinner ih =>
    obtain ⟨level, hlevel, hset⟩ := ih (hgives.of_cons hword)
    exact ⟨level, List.mem_cons_of_mem _ hlevel, hset⟩
  | switches htakes hrest ih =>
    cases hgives with
    | within word htells hmem =>
      rcases List.mem_cons.1 hmem with rfl | hmem
      · exact hrest.keeps (mem_gathered (htakes.given s value hs htells))
      · exact ih (.within word htells hmem)
    | behind word htells hwords =>
      rcases List.infix_cons_iff.1 hwords with hprefix | hinfix
      · obtain ⟨rfl, hnext⟩ := List.cons_prefix_cons.1 hprefix
        obtain ⟨more, rfl⟩ := hnext
        exact hrest.awaited (htakes.announced s hs htells)
      · exact ih (.behind word htells hinfix)
  | value hword hpending hrest ih => exact ih (hgives.of_cons hword)

/-- Nothing is set but what is written, and what the environment has. -/
theorem Gathers.sound {levels : List (List Setting)} (h : Gathers env l words levels) :
    ∀ level ∈ levels, ∀ x ∈ level, x.switch.takesValue = true →
      x ∈ l.gathered ∨ (l.pending = some (x.switch, none) ∧ words.head? = some x.value) ∨
        Names env words x.switch x.value := by
  have hend : ∀ {l : Level} {words : List String} {settings : List Setting},
      l.finish env = .ok settings → ∀ x ∈ settings, x ∈ l.gathered ∨ Names env words x.switch x.value :=
    fun hfinish x hx => ((finish_ok hfinish).2.2.1 x hx).imp_right fun h => .inr h.2
  induction h with
  | ended hfinish =>
    rintro level hlevel x hx -
    cases List.mem_singleton.1 hlevel
    exact (hend hfinish x hx).imp_right .inr
  | closed hword hfinish =>
    rintro level hlevel x hx -
    cases List.mem_singleton.1 hlevel
    exact (hend hfinish x hx).imp_right .inr
  | verb hword hfinish hinner ih =>
    intro level hlevel x hx hs
    rcases List.mem_cons.1 hlevel with rfl | hlevel
    · exact (hend hfinish x hx).imp_right .inr
    · rcases ih level hlevel x hx hs with hnone | ⟨hnone, -⟩ | hnames
      · cases hnone
      · cases hnone
      · exact .inr (.inr (hnames.imp_left Gives.cons))
  | @switches l l' word rest levels htakes hrest ih =>
    intro level hlevel x hx hs
    rcases ih level hlevel x hx hs with hset | ⟨hpending, hhead⟩ | hnames
    · have hsettings : l'.gathered = l'.settings := by
        unfold Level.gathered
        split
        · next s value hpending => cases (htakes.awaits _ _ hpending).1
        · rfl
      rw [hsettings] at hset
      rcases htakes.sets x hset with hbefore | hnot | htells
      · exact .inl hbefore
      · rw [hs] at hnot
        cases hnot
      · exact .inr (.inr (.inl (.within word htells List.mem_cons_self)))
    · obtain ⟨more, rfl⟩ := List.head?_eq_some_iff.1 hhead
      have hwords : [word, x.value] <:+: word :: x.value :: more :=
        (List.prefix_append [word, x.value] more).isInfix
      exact .inr (.inr (.inl (.behind word (htakes.awaits _ _ hpending).2 hwords)))
    · exact .inr (.inr (hnames.imp_left Gives.cons))
  | @value l s word rest levels hword hpending hrest ih =>
    intro level hlevel x hx hs
    rcases ih level hlevel x hx hs with hset | ⟨hpending', -⟩ | hnames
    · rw [gathered_take hpending] at hset
      rcases List.mem_cons.1 hset with rfl | hset
      · exact .inr (.inl ⟨hpending, rfl⟩)
      · exact .inl (mem_gathered hset)
    · rw [Level.take, hpending] at hpending'
      cases hpending'
    · exact .inr (.inr (hnames.imp_left Gives.cons))

/-- What the environment has a value for is set. -/
theorem Gathers.environed {levels : List (List Setting)} (h : Gathers env l words levels)
    (hvalue : Environs env s value) : ∃ level ∈ levels, ∃ x ∈ level, x.switch = s := by
  induction h with
  | ended hfinish => exact ⟨_, List.mem_cons_self, (finish_ok hfinish).2.2.2 s value hvalue⟩
  | closed hword hfinish => exact ⟨_, List.mem_cons_self, (finish_ok hfinish).2.2.2 s value hvalue⟩
  | verb hword hfinish hinner ih =>
    exact ⟨_, List.mem_cons_self, (finish_ok hfinish).2.2.2 s value hvalue⟩
  | switches htakes hrest ih => exact ih
  | value hword hpending hrest ih => exact ih

/-! ## The value of a switch -/

/-- The setting of a switch that counts, given the one in front of some levels. -/
def counted (s : Switch) (found : Option Setting) (levels : List (List Setting)) : Option Setting :=
  levels.foldl (fun found level => stronger found (level.find? (·.switch == s))) found

theorem stronger_cases {a b : Option Setting} (h : stronger a b = some x) : a = some x ∨ b = some x := by
  unfold stronger at h
  split at h
  · split at h
    · exact .inl h
    · exact .inr h
  · exact .inl h
  · exact .inr h

theorem isSome_stronger (a b : Option Setting) : (stronger a b).isSome = (a.isSome || b.isSome) := by
  cases a with
  | none => cases b <;> rfl
  | some a =>
    cases b with
    | none => rfl
    | some b =>
      unfold stronger
      dsimp only
      split <;> rfl

theorem counted_cases {levels : List (List Setting)} {found : Option Setting}
    (h : counted s found levels = some x) :
    found = some x ∨ ∃ level ∈ levels, x ∈ level ∧ x.switch = s := by
  induction levels generalizing found with
  | nil => exact .inl h
  | cons level levels ih =>
    rcases ih h with hfirst | ⟨level', hlevel', hx⟩
    · rcases stronger_cases hfirst with hfound | hfind
      · exact .inl hfound
      · have hswitch : (x.switch == s) = true :=
          List.find?_some (p := fun x : Setting => x.switch == s) hfind
        exact .inr ⟨level, List.mem_cons_self, List.mem_of_find?_eq_some hfind, eq_of_beq hswitch⟩
    · exact .inr ⟨level', List.mem_cons_of_mem level hlevel', hx⟩

theorem isSome_counted {levels : List (List Setting)} {found : Option Setting}
    (h : found.isSome = true ∨ ∃ level ∈ levels, ∃ x ∈ level, x.switch = s) :
    (counted s found levels).isSome = true := by
  induction levels generalizing found with
  | nil =>
    rcases h with h | ⟨level, hlevel, -⟩
    · exact h
    · cases hlevel
  | cons level levels ih =>
    refine ih ?_
    rw [isSome_stronger, Bool.or_eq_true_iff]
    rcases h with h | ⟨level', hlevel', x, hx, hswitch⟩
    · exact .inl (.inl h)
    · rcases List.mem_cons.1 hlevel' with rfl | hlevel'
      · exact .inl (.inr (List.find?_isSome.2 ⟨x, hx, beq_iff_eq.2 hswitch⟩))
      · exact .inr ⟨level', hlevel', x, hx, hswitch⟩

/-- A switch that takes a value has one that is named for it, if any is. -/
theorem value?_named {ls : Levels} (h : readLevel env path v {} words = .ok ls)
    (hs : s.takesValue = true) :
    (∀ value, ls.value? s = some value → Names env words s value) ∧
      (ls.value? s = none → ∀ value, ¬ Names env words s value) := by
  have hgathers := gathers_of_readLevel h
  have hcounted : ls.value? s = (counted s none ls.settings).map (·.value) := rfl
  constructor
  · intro value hvalue
    rw [hcounted] at hvalue
    obtain ⟨x, hx, rfl⟩ := Option.map_eq_some_iff.1 hvalue
    rcases counted_cases hx with hnone | ⟨level, hlevel, hmem, rfl⟩
    · cases hnone
    · rcases hgathers.sound level hlevel x hmem hs with hbefore | ⟨hpending, -⟩ | hnames
      · cases hbefore
      · cases hpending
      · exact hnames
  · intro hnone value hnames
    have hset : ∃ level ∈ ls.settings, ∃ x ∈ level, x.switch = s := by
      rcases hnames with hgives | hvalue
      · obtain ⟨level, hlevel, hx⟩ := hgathers.complete hs hgives
        exact ⟨level, hlevel, _, hx, rfl⟩
      · exact hgathers.environed hvalue
    rw [hcounted, Option.map_eq_none_iff] at hnone
    have hsome : (counted s none ls.settings).isSome := isSome_counted (.inr hset)
    rw [hnone] at hsome
    cases hsome

/-- The path of the settings is one that is named for it, or the standard one if none is. -/
theorem settingsPath_named {i : Invocation} (h : read env words = .ok i) :
    Names env words .config i.settingsPath ∨
      i.settingsPath = Settings.standardPath ∧ ∀ path, ¬ Names env words .config path := by
  obtain ⟨ls, hlevels, h⟩ := ok_of_bind h
  obtain ⟨command, -, h⟩ := ok_of_bind h
  cases h
  obtain ⟨hsome, hnone⟩ := value?_named hlevels (s := .config) rfl
  cases hvalue : ls.value? .config with
  | none => exact .inr ⟨rfl, hnone hvalue⟩
  | some value => exact .inl (hsome value hvalue)

end Enrollment.Invocation

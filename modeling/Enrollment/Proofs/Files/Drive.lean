import Enrollment.Files.Drive
import Enrollment.Proofs.Files.Directories
/-!
# Drives that differ in their log file

What is written to a log file stays in it. Two drives that are the same but for what their log file holds
answer every step alike that has to do with other files, and are the same afterwards but for that.

Results:
 1. `Tree.place_of_follow`: there are no links, so the text of a path tells where it leads.
 2. `Drive.AlikeOff.noted`: drives stay alike when one of them writes to its log file.
 3. `Drive.AlikeOff.answer`: a step that spares the log file is answered alike, and drives stay alike.
 4. `Drive.LogsTo.answer`: a log file that is opened is the one that was asked for.
-/

namespace Enrollment.Files

open Text (Bytes)

/-! ## Places of paths -/

/-- Where names lead from a place, if they lead anywhere. -/
def Path.walk : Place → List String → Place
  | place, [] => place
  | place, name :: names =>
    if name = "." then walk place names
    else if name = ".." then walk place.dropLast names
    else walk (place ++ [name]) names

/-- Where a path leads from a directory, if it leads anywhere. -/
def Path.place (here : Place) (path : String) : Place :=
  walk (if isAbsolute path then [] else here) (names path)

theorem Path.walk_append (place : Place) (names names' : List String) :
    walk place (names ++ names') = walk (walk place names) names' := by
  induction names generalizing place with
  | nil => rfl
  | cons name names ih =>
    rw [List.cons_append, walk, walk]
    split
    · exact ih _
    · split <;> exact ih _

namespace Tree

variable {t t' : Tree} {off : Option Place}

theorem walk_of_enter {place place' : Place} {names : List String}
    (h : t.enter place names = .ok place') : Path.walk place names = place' := by
  induction names generalizing place with
  | nil => exact Except.ok.inj h
  | cons name names ih =>
    unfold enter at h
    unfold Path.walk
    split at h
    · next hpoint =>
      rw [if_pos hpoint]
      exact ih h
    next hpoint =>
    rw [if_neg hpoint]
    split at h
    · next hup =>
      rw [if_pos hup]
      exact ih h
    next hup =>
    rw [if_neg hup]
    split at h
    · cases h
    split at h
    · cases h
    split at h
    · exact ih h
    · cases h

theorem place_of_follow {path : String} {directory : Place} {name : String} {slash : Bool}
    (h : t.follow path = .ok (.named directory name slash)) :
    directory ++ [name] = Path.place t.here path := by
  rcases follow_cases path with ⟨fault, hfault⟩ | ⟨-, hnone⟩ | ⟨before, last, hlast, hnames⟩
  · rw [hfault] at h
    cases h
  · rw [hnone] at h
    cases h
  · rw [hnames] at h
    cases henter : t.enter (t.start path) before with
    | error fault =>
      rw [henter] at h
      cases h
    | ok place =>
      rw [henter] at h
      have h : finish path last place = .ok (.named directory name slash) := h
      obtain ⟨hpoint, rfl, rfl⟩ := finish_named h
      have hup : name ≠ ".." := by
        rintro rfl
        cases h
      have hwalk : Path.walk (if Path.isAbsolute path then [] else t.here) before = directory :=
        walk_of_enter henter
      rw [Path.place, hlast, Path.walk_append, hwalk, Path.walk, if_neg hpoint, if_neg hup]
      rfl

theorem placeAt?_eq {path : String} {place : Place} (h : t.placeAt? path = some place) :
    place = Path.place t.here path := by
  unfold placeAt? at h
  split at h
  · next hfollow =>
    cases h
    exact place_of_follow hfollow
  · cases h

/-! ## Trees that differ in one file -/

/-- Trees that are the same but for what a file holds. -/
structure Alike (off : Option Place) (t t' : Tree) : Prop where
  here : t'.here = t.here
  entries : ∀ place, t'.entryAt? place = t.entryAt? place ∨
    off = some place ∧ (∃ content, t.entryAt? place = some (.file content)) ∧
      ∃ content, t'.entryAt? place = some (.file content)

namespace Alike

theorem refl (off : Option Place) (t : Tree) : Alike off t t where
  here := rfl
  entries _ := .inl rfl

theorem symm (h : Alike off t t') : Alike off t' t where
  here := h.here.symm
  entries place := (h.entries place).imp Eq.symm fun ⟨hoff, hfile, hfile'⟩ => ⟨hoff, hfile', hfile⟩

theorem entryAt?_eq (h : Alike off t t') {place : Place} (hoff : off ≠ some place) :
    t'.entryAt? place = t.entryAt? place :=
  (h.entries place).resolve_right fun hfiles => hoff hfiles.1

/-- There are no files and directories more or less. -/
theorem kind_eq (h : Alike off t t') (place : Place) :
    (t'.entryAt? place).map Entry.isDirectory = (t.entryAt? place).map Entry.isDirectory := by
  rcases h.entries place with heq | ⟨-, ⟨content, hfile⟩, ⟨content', hfile'⟩⟩
  · rw [heq]
  · rw [hfile, hfile']
    rfl

theorem isOpen_eq (h : Alike off t t') (place : Place) : t'.isOpen place = t.isOpen place := by
  unfold isOpen
  rcases h.entries place with heq | ⟨-, ⟨content, hfile⟩, ⟨content', hfile'⟩⟩
  · rw [heq]
  · rw [hfile, hfile']
    rfl

theorem enter_eq (h : Alike off t t') (place : Place) (names : List String) :
    t'.enter place names = t.enter place names := by
  induction names generalizing place with
  | nil => rfl
  | cons name names ih =>
    have hkind := h.kind_eq (place ++ [name])
    unfold enter
    rw [ih, ih]
    split
    · rfl
    split
    · rfl
    split
    · rfl
    cases hentry : t.entryAt? (place ++ [name]) with
    | none =>
      rw [hentry] at hkind
      rw [Option.map_eq_none_iff.1 hkind]
    | some entry =>
      rw [hentry] at hkind
      obtain ⟨entry', hentry', hsame⟩ := Option.map_eq_some_iff.1 hkind
      rw [hentry']
      dsimp only
      rw [hsame, ih]

theorem follow_eq (h : Alike off t t') (path : String) : t'.follow path = t.follow path := by
  have hstart : t'.start path = t.start path := by rw [start, start, h.here]
  rcases follow_cases path with ⟨fault, hfault⟩ | ⟨-, hnone⟩ | ⟨before, last, -, hnames⟩
  · rw [hfault, hfault]
  · rw [hnone, hnone, hstart]
  · rw [hnames, hnames, hstart, h.enter_eq]

theorem placeAt?_eq (h : Alike off t t') (path : String) : t'.placeAt? path = t.placeAt? path := by
  unfold placeAt?
  rw [h.follow_eq]

/-- Whether there is something at a path, and whether that is a directory. -/
theorem look_kind_eq (h : Alike off t t') (path : String) :
    (t'.look path).map Entry.isDirectory = (t.look path).map Entry.isDirectory := by
  unfold look
  rw [h.follow_eq]
  split
  · rfl
  · rfl
  · next directory name slash _ =>
    have hkind := h.kind_eq (directory ++ [name])
    cases hentry : t.entryAt? (directory ++ [name]) with
    | none =>
      rw [hentry] at hkind
      rw [Option.map_eq_none_iff.1 hkind]
    | some entry =>
      rw [hentry] at hkind
      obtain ⟨entry', hentry', hsame⟩ := Option.map_eq_some_iff.1 hkind
      rw [hentry']
      dsimp only
      rw [hsame]
      split
      · rfl
      · exact congrArg Except.ok hsame

theorem isDirectoryAt_eq (h : Alike off t t') (path : String) :
    t'.isDirectoryAt path = t.isDirectoryAt path := by
  have hread : ∀ t : Tree, t.isDirectoryAt path =
      ((t.look path).map Entry.isDirectory).toOption.getD false := by
    intro t
    unfold isDirectoryAt
    cases t.look path <;> rfl
  rw [hread, hread, h.look_kind_eq]

theorem probe_eq (h : Alike off t t') (path : String) :
    (t'.look path).toBool = (t.look path).toBool := by
  have hread : ∀ t : Tree, (t.look path).toBool = ((t.look path).map Entry.isDirectory).toBool := by
    intro t
    cases t.look path <;> rfl
  rw [hread, hread, h.look_kind_eq]

theorem read_eq (h : Alike off t t') {path : String} (hoff : off ≠ some (Path.place t.here path)) :
    t'.read path = t.read path := by
  unfold read look
  rw [h.follow_eq]
  cases hfollow : t.follow path with
  | error fault => rfl
  | ok target =>
    cases target with
    | entered place => rfl
    | named directory name slash =>
      rw [← place_of_follow hfollow] at hoff
      dsimp only
      rw [h.entryAt?_eq hoff]

/-! ### What is put and dropped -/

theorem put (h : Alike off t t') {place : Place} (hplace : place ≠ []) (entry : Entry) :
    Alike off (t.put place entry) (t'.put place entry) where
  here := h.here
  entries other := by
    by_cases heq : other = place
    · subst heq
      exact .inl (by rw [entryAt?_put hplace, entryAt?_put hplace])
    · rw [entryAt?_put_of_ne heq, entryAt?_put_of_ne heq]
      exact h.entries other

theorem drop (h : Alike off t t') {place : Place} (hplace : place ≠ []) :
    Alike off (t.drop place) (t'.drop place) where
  here := h.here
  entries other := by
    by_cases heq : other = place
    · subst heq
      exact .inl (by rw [entryAt?_drop hplace, entryAt?_drop hplace])
    · rw [entryAt?_drop_of_ne heq, entryAt?_drop_of_ne heq]
      exact h.entries other

/-- Trees stay alike when more is written to the file in which they differ. -/
theorem extend {place : Place} (h : Alike (some place) t t') (more : Bytes) :
    Alike (some place) (t.extend place more) t' := by
  unfold Tree.extend
  split
  · next content hentry =>
    have hplace : place ≠ [] := by
      rintro rfl
      cases hentry
    refine ⟨h.here, fun other => ?_⟩
    by_cases heq : other = place
    · subst heq
      refine .inr ⟨rfl, ⟨_, entryAt?_put hplace⟩, ?_⟩
      rcases h.entries other with hsame | ⟨-, -, hfile⟩
      · exact ⟨content, hsame.trans hentry⟩
      · exact hfile
    · rw [entryAt?_put_of_ne heq]
      exact h.entries other
  · exact h

end Alike

/-- Two attempts come to trees that are alike, or to the same fault. -/
inductive AlikeResult (off : Option Place) : Except Fault Tree → Except Fault Tree → Prop
  | ok {t t' : Tree} (h : Alike off t t') : AlikeResult off (.ok t) (.ok t')
  | error (fault : Fault) : AlikeResult off (.error fault) (.error fault)

theorem AlikeResult.outcomes {result result' : Except Fault Tree} (h : AlikeResult off result result') :
    (∃ fault, result = .error fault ∧ result' = .error fault) ∨
      ∃ t t', result = .ok t ∧ result' = .ok t' ∧ Alike off t t' := by
  cases h with
  | ok halike => exact .inr ⟨_, _, rfl, rfl, halike⟩
  | error fault => exact .inl ⟨fault, rfl, rfl⟩

namespace Alike

theorem openFile (h : Alike off t t') {path : String} (hoff : off ≠ some (Path.place t.here path))
    (change : Bytes → Bytes) : AlikeResult off (t.openFile path change) (t'.openFile path change) := by
  unfold Tree.openFile
  rw [h.follow_eq]
  cases hfollow : t.follow path with
  | error fault => exact .error fault
  | ok target =>
    cases target with
    | entered place => exact .error _
    | named directory name slash =>
      rw [← place_of_follow hfollow] at hoff
      dsimp only
      rw [h.entryAt?_eq hoff, h.isOpen_eq]
      split
      · exact .error _
      split
      · exact .ok (h.put place_ne_nil _)
      · exact .error _
      split
      · exact .ok (h.put place_ne_nil _)
      · exact .error _

theorem makeDirectory (h : Alike off t t') (path : String) :
    AlikeResult off (t.makeDirectory path) (t'.makeDirectory path) := by
  unfold Tree.makeDirectory
  rw [h.follow_eq]
  cases t.follow path with
  | error fault => exact .error fault
  | ok target =>
    cases target with
    | entered place => exact .error _
    | named directory name slash =>
      have hthere : (t'.entryAt? (directory ++ [name])).isSome =
          (t.entryAt? (directory ++ [name])).isSome := by
        rw [← Option.isSome_map, h.kind_eq, Option.isSome_map]
      dsimp only
      rw [hthere, h.isOpen_eq]
      split
      · exact .error _
      split
      · exact .ok (h.put place_ne_nil _)
      · exact .error _

theorem ensureDirectory (h : Alike off t t') (path : String) :
    (t'.ensureDirectory path).1 = (t.ensureDirectory path).1 ∧
      Alike off (t.ensureDirectory path).2 (t'.ensureDirectory path).2 := by
  unfold Tree.ensureDirectory
  rw [h.isDirectoryAt_eq]
  rcases (h.makeDirectory path).outcomes with ⟨fault, hmade, hmade'⟩ | ⟨made, made', hmade, hmade', halike⟩
  · rw [hmade, hmade']
    exact ⟨rfl, h⟩
  · rw [hmade, hmade']
    exact ⟨rfl, halike⟩

theorem makeDirectoriesUpTo (h : Alike off t t') (bound : Nat) (path : String) :
    (t'.makeDirectoriesUpTo bound path).1 = (t.makeDirectoriesUpTo bound path).1 ∧
      Alike off (t.makeDirectoriesUpTo bound path).2 (t'.makeDirectoriesUpTo bound path).2 := by
  induction bound generalizing path with
  | zero => exact ⟨rfl, h⟩
  | succ bound ih =>
    have hensured := h.ensureDirectory path
    unfold Tree.makeDirectoriesUpTo
    split
    · exact ⟨rfl, h⟩
    rcases (h.makeDirectory path).outcomes with ⟨fault, hmade, hmade'⟩ | ⟨made, made', hmade, hmade', -⟩
    · rw [hmade, hmade']
      cases fault with
      | notFound =>
        cases Path.parent? path with
        | none => exact ⟨rfl, h⟩
        | some above =>
          obtain ⟨hsame, halike⟩ := ih above
          dsimp only
          cases habove : t.makeDirectoriesUpTo bound above with
          | mk result made =>
            cases habove' : t'.makeDirectoriesUpTo bound above with
            | mk result' made' =>
              rw [habove, habove'] at hsame halike
              obtain rfl : result' = result := hsame
              cases result' with
              | ok _ => exact halike.ensureDirectory path
              | error fault => exact ⟨rfl, halike⟩
      | _ => exact hensured
    · rw [hmade, hmade']
      exact hensured

theorem move (h : Alike off t t') {source target : String}
    (hsource : off ≠ some (Path.place t.here source)) (htarget : off ≠ some (Path.place t.here target)) :
    AlikeResult off (t.move source target) (t'.move source target) := by
  unfold Tree.move
  rw [h.follow_eq, h.follow_eq]
  cases hfrom : t.follow source with
  | error fault => exact .error fault
  | ok origin =>
    cases hto : t.follow target with
    | error fault => cases origin <;> exact .error fault
    | ok goal =>
      cases origin with
      | entered place => exact .error _
      | named directory name slash =>
        cases goal with
        | entered place => exact .error _
        | named directory' name' slash' =>
          rw [← place_of_follow hfrom] at hsource
          rw [← place_of_follow hto] at htarget
          dsimp only
          rw [h.entryAt?_eq hsource, h.entryAt?_eq htarget, h.isOpen_eq]
          have hplace : directory ++ [name] ≠ [] := place_ne_nil
          have hplace' : directory' ++ [name'] ≠ [] := place_ne_nil
          have hput := fun content => (h.drop hplace).put hplace' (.file content)
          split
          · exact .error _
          · split
            · exact .error _
            split
            · exact .ok (hput _)
            · exact .error _
            split
            · exact .ok (hput _)
            · exact .error _
          · exact .error _

theorem remove (h : Alike off t t') {path : String} (hoff : off ≠ some (Path.place t.here path)) :
    AlikeResult off (t.remove path) (t'.remove path) := by
  unfold Tree.remove
  rw [h.follow_eq]
  cases hfollow : t.follow path with
  | error fault => exact .error fault
  | ok target =>
    cases target with
    | entered place => exact .error _
    | named directory name slash =>
      rw [← place_of_follow hfollow] at hoff
      dsimp only
      rw [h.entryAt?_eq hoff]
      split
      · exact .error _
      · split
        · exact .error _
        · exact .ok (h.drop place_ne_nil)
      · exact .error _

end Alike

end Tree

/-! ## Drives that differ in their log file -/

/-- Nothing is done by a step with the file at a place. -/
def Step.Spares (here : Place) (off : Option Place) : Step → Prop
  | read path => off ≠ some (Path.place here path)
  | write path _ => off ≠ some (Path.place here path)
  | move source target =>
    off ≠ some (Path.place here source) ∧ off ≠ some (Path.place here target)
  | remove path => off ≠ some (Path.place here path)
  | openLog _ _ => False
  | _ => True

/-- A log file is opened where a path leads, or directories are made. -/
def Step.IsOpening (file : String) : Step → Prop
  | openLog path _ => path = file
  | makeDirectories _ => True
  | _ => False

namespace Drive

variable {τ : Type} {d d' : Drive τ} {here : Place} {off : Option Place}

/-- Drives whose log files are at one place, and that are the same but for what those hold. -/
structure AlikeOff (here : Place) (off : Option Place) (d d' : Drive τ) : Prop where
  here : d.tree.here = here
  place : d.log.map Sink.place = off
  log : d'.log = d.log
  tree : Tree.Alike off d.tree d'.tree

theorem AlikeOff.refl (d : Drive τ) : AlikeOff d.tree.here (d.log.map Sink.place) d d :=
  ⟨rfl, rfl, rfl, .refl _ _⟩

variable (scribe : Scribe τ)

theorem note_here (e : Log.Event) (d : Drive τ) :
    (d.note scribe e).tree.here = d.tree.here ∧ (d.note scribe e).log = d.log := by
  unfold note Tree.extend
  cases hopen : d.log with
  | none => exact ⟨rfl, hopen⟩
  | some log =>
    dsimp only
    split <;> exact ⟨rfl, rfl⟩

/-- Drives stay alike when one of them notes an event. -/
theorem AlikeOff.noted (h : AlikeOff here off d d') (e : Log.Event) : AlikeOff here off (d.note scribe e) d' := by
  obtain ⟨hhere, hlog⟩ := note_here scribe e d
  refine ⟨hhere.trans h.here, by rw [hlog, h.place], by rw [hlog, h.log], ?_⟩
  unfold note
  cases hopen : d.log with
  | none => exact h.tree
  | some log =>
    have hplace : off = some log.place := by rw [← h.place, hopen, Option.map_some]
    have htree := h.tree
    rw [hplace] at htree ⊢
    exact htree.extend _

/-- Drives that are the same but for what their log file holds. -/
def Alike (d d' : Drive τ) : Prop :=
  AlikeOff d.tree.here (d.log.map Sink.place) d d'

theorem AlikeOff.alike (h : AlikeOff here off d d') : Alike d d' := by
  obtain ⟨rfl, rfl, hlog, htree⟩ := h
  exact ⟨rfl, rfl, hlog, htree⟩

theorem AlikeOff.symm (h : AlikeOff here off d d') : AlikeOff here off d' d :=
  ⟨h.tree.here.trans h.here, by rw [h.log, h.place], h.log.symm, h.tree.symm⟩

/-- A log file is kept where another file was moved. -/
theorem bind_moved {log : Option Sink} {source target : Option Place}
    (hsource : ∀ place ∈ source, log.map Sink.place ≠ some place)
    (htarget : ∀ place ∈ target, log.map Sink.place ≠ some place) :
    log.bind (Sink.moved source target) = log := by
  cases log with
  | none => rfl
  | some log =>
    have hnot : source ≠ some log.place ∧ target ≠ some log.place :=
      ⟨fun h => hsource _ h rfl, fun h => htarget _ h rfl⟩
    rw [Option.bind_some, Sink.moved, if_neg hnot.1, if_neg hnot.2]

theorem bind_kept {log : Option Sink} {removed : Option Place}
    (h : ∀ place ∈ removed, log.map Sink.place ≠ some place) :
    log.bind (Sink.kept removed) = log := by
  cases log with
  | none => rfl
  | some log => exact if_neg fun hremoved => h _ hremoved rfl

/-- A step that spares the log file is answered alike by drives that are alike, and they stay alike. -/
theorem AlikeOff.answer (h : AlikeOff here off d d') {s : Step} (hs : s.Spares here off) :
    (answer scribe s d').1 = (answer scribe s d).1 ∧
      AlikeOff here off (answer scribe s d).2 (answer scribe s d').2 := by
  obtain ⟨rfl, rfl, hlog, htree⟩ := h
  have hapart : ∀ {path : String}, d.log.map Sink.place ≠ some (Path.place d.tree.here path) →
      ∀ place ∈ d.tree.placeAt? path, d.log.map Sink.place ≠ some place := by
    intro path hpath place hplace
    rw [Tree.placeAt?_eq hplace]
    exact hpath
  cases s with
  | read path => exact ⟨htree.read_eq hs, rfl, rfl, hlog, htree⟩
  | probe path => exact ⟨htree.probe_eq path, rfl, rfl, hlog, htree⟩
  | makeDirectories path =>
    obtain ⟨hsame, halike⟩ := htree.makeDirectoriesUpTo (path.length + 1) path
    exact ⟨hsame, (Tree.keeps_makeDirectories d.tree path).here, rfl, hlog, halike⟩
  | write path content =>
    have hresult : Tree.AlikeResult _ (d.tree.write path content) (d'.tree.write path content) :=
      htree.openFile hs fun _ => content
    unfold Drive.answer
    dsimp only
    rcases hresult.outcomes with ⟨fault, hwrite, hwrite'⟩ | ⟨tree, tree', hwrite, hwrite', halike⟩
    · rw [hwrite, hwrite']
      exact ⟨rfl, rfl, rfl, hlog, htree⟩
    · rw [hwrite, hwrite']
      exact ⟨rfl, (Tree.keeps_openFile hwrite).here, rfl, hlog, halike⟩
  | move source target =>
    have hkept := bind_moved (hapart hs.1) (hapart hs.2)
    have hkept' := hkept
    rw [← htree.placeAt?_eq, ← htree.placeAt?_eq, ← hlog] at hkept'
    unfold Drive.answer
    dsimp only
    rcases (htree.move hs.1 hs.2).outcomes with
      ⟨fault, hmove, hmove'⟩ | ⟨tree, tree', hmove, hmove', halike⟩
    · rw [hmove, hmove']
      exact ⟨rfl, rfl, rfl, hlog, htree⟩
    · rw [hmove, hmove']
      exact ⟨rfl, (Tree.keeps_move hmove).here, congrArg _ hkept, hkept'.trans (hlog.trans hkept.symm),
        halike⟩
  | remove path =>
    have hkept := bind_kept (hapart hs)
    have hkept' := hkept
    rw [← htree.placeAt?_eq, ← hlog] at hkept'
    unfold Drive.answer
    dsimp only
    rcases (htree.remove hs).outcomes with
      ⟨fault, hremove, hremove'⟩ | ⟨tree, tree', hremove, hremove', halike⟩
    · rw [hremove, hremove']
      exact ⟨rfl, rfl, rfl, hlog, htree⟩
    · rw [hremove, hremove']
      exact ⟨rfl, (Tree.keeps_remove hremove).here, congrArg _ hkept,
        hkept'.trans (hlog.trans hkept.symm), halike⟩
  | openLog path filter => exact hs.elim
  | note e =>
    have halike : AlikeOff d.tree.here (d.log.map Sink.place) d d' := ⟨rfl, rfl, hlog, htree⟩
    exact ⟨rfl, ((halike.noted scribe e).symm.noted scribe e).symm⟩

/-- If a log file is open, it is where a path leads. -/
structure LogsTo (here : Place) (file : String) (d : Drive τ) : Prop where
  start : d.tree.here = here
  place : ∀ log ∈ d.log, log.place = Path.place here file

theorem LogsTo.answer {file : String} (h : LogsTo here file d) {s : Step} (hs : s.IsOpening file) :
    LogsTo here file (answer scribe s d).2 := by
  obtain ⟨rfl, hplace⟩ := h
  cases s with
  | openLog path filter =>
    obtain rfl : path = file := hs
    unfold Drive.answer
    dsimp only
    cases hopen : d.tree.openFile path id with
    | error fault => exact ⟨rfl, hplace⟩
    | ok tree =>
      refine ⟨(Tree.keeps_openFile hopen).here, fun log hlog => ?_⟩
      obtain ⟨place, hat, rfl⟩ := Option.map_eq_some_iff.1 hlog
      exact Tree.placeAt?_eq hat
  | makeDirectories path => exact ⟨(Tree.keeps_makeDirectories d.tree path).here, hplace⟩
  | _ => exact hs.elim

end Drive

end Enrollment.Files

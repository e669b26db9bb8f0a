import Mathlib.Data.List.Forall2
import Enrollment.Proofs.Document.Kinds
import Enrollment.Proofs.Document.Partial
/-!
# Settings of which something is left out

A configuration file need not tell everything. Whatever sections and keys are left out of it, those that are
there count, those that are not have their standard values, and what the settings do not know is passed over.
So it makes no difference whether a section is missing or is there without any key.

The standard values stand in two places, with the types of the sections and with the descriptions of how they
are read. `keeping` takes them from the types, and the descriptions have to agree.

Results:
 1. `Coordinator.completes` and its like: what is made of some of the keys of a section.
 2. `completes`: what is made of some of the sections.
 3. `partial_settings_completed`: what is made of a file.
-/

namespace Enrollment

open Document (Keeps Tree Value seen)
open Document.Codec (faithful_text faithful_boolean faithful_word64 faithful_word32)
open Document.Layout (Completes)

/-! ## Files -/

/-- A text is written for a tree. The grammar writes nothing for a text in which an escape stands for no
character; what is passed over may hold such a text, and then the reader says what the tree is. -/
def Json.Stands (s : String) (t : Tree) : Prop :=
  SpellsPadded t s.toList ∨ read s = (t, true)

theorem Json.Stands.read_eq {s : String} {t : Tree} (h : Stands s t) : read s = (t, true) := by
  rcases h with h | h
  · exact read_of_spellsPadded h
  · exact h

/-- A list is read item by item. -/
theorem Document.Codec.decode_listOf {α β : Type} {c : Codec α} {f : β → α} {values : List β}
    {items : List Tree} (h : List.Forall₂ (fun b t => c.decode .json t = .ok (f b)) values items) :
    c.listOf.decode .json (.list items .closed) = .ok (values.map f) := by
  have hitems : items.mapM (c.decode .json) = .ok (values.map f) := by
    induction h with
    | nil => rfl
    | cons hfirst _ ih =>
      rw [List.mapM_cons, hfirst, ok_bind, ih, ok_bind]
      rfl
  simp only [listOf, hitems, ok_bind, Ending.check]

namespace Settings

/-! ## Entries -/

/-- What a reader sees of written entries. -/
def treesOf (entries : List (String × Value)) : List (String × Tree) :=
  entries.map fun m => (m.1, m.2.tree Text.toDecimal)

def kept (keep : String → Bool) (entries : List (String × Value)) : Value :=
  .record (entries.filter fun m => keep m.1)

theorem keeps_kept (keep : String → Bool) (entries : List (String × Value)) :
    Keeps (treesOf entries) keep ((kept keep entries).tree Text.toDecimal) := by
  refine ⟨[], _, fun m hm => absurd hm List.not_mem_nil, .refl _, ?_⟩
  rw [List.append_nil, treesOf, List.filter_map, kept, Value.tree, Document.memberTrees_eq_map, seen,
    List.map_map]
  rfl

theorem forall₂_trees {β : Type} {p : β → Tree → Prop} {f : β → Value}
    (h : ∀ b, p b ((f b).tree Text.toDecimal)) (values : List β) :
    List.Forall₂ p values (Value.trees Text.toDecimal (values.map f)) := by
  induction values with
  | nil => exact .nil
  | cons b rest ih => exact .cons (h b) ih

def openText : Option String → Value
  | none => .null
  | some s => .text s

theorem decode_openText (o : Option String) :
    Document.Codec.text.optional.decode .json ((openText o).tree Text.toDecimal) = .ok o := by
  cases o <;> rfl

/-! ## Sections -/

/-- The keys of the section on the coordinator, with their values. -/
def Coordinator.entries (c : Coordinator) : List (String × Value) :=
  [("url", .text c.url), ("api_key", openText c.apiKey), ("timeout_secs", .natural c.timeout.toNat),
    ("max_retries", .natural c.maxRetries.toNat)]

/-- The section with the kept values, and the standard ones otherwise. -/
def Coordinator.keeping (keep : String → Bool) (c : Coordinator) : Coordinator :=
  let standard : Coordinator := {}
  { url := if keep "url" then c.url else standard.url
    apiKey := if keep "api_key" then c.apiKey else standard.apiKey
    timeout := if keep "timeout_secs" then c.timeout else standard.timeout
    maxRetries := if keep "max_retries" then c.maxRetries else standard.maxRetries }

theorem Coordinator.completes (c : Coordinator) (keep : String → Bool) :
    Coordinator.layout.Completes keep (treesOf c.entries) (c.keeping keep) :=
  (((Completes.make keep Coordinator.mk).defaulted "url" (by simp) (faithful_text c.url)).elided
    "api_key" (by simp) (decode_openText c.apiKey)).defaulted
    "timeout_secs" (by simp) (faithful_word64 c.timeout) |>.defaulted
    "max_retries" (by simp) (faithful_word32 c.maxRetries)

/-- The keys of the section on the node, with their values. -/
def Identity.entries (i : Identity) : List (String × Value) :=
  [("address", .text i.address), ("payment_address", openText i.paymentAddress),
    ("state_path", openText i.recordPath)]

/-- The section with the kept values, and the standard ones otherwise. -/
def Identity.keeping (keep : String → Bool) (i : Identity) : Identity :=
  let standard : Identity := {}
  { address := if keep "address" then i.address else standard.address
    paymentAddress := if keep "payment_address" then i.paymentAddress else standard.paymentAddress
    recordPath := if keep "state_path" then i.recordPath else standard.recordPath }

theorem Identity.completes (i : Identity) (keep : String → Bool) :
    Identity.layout.Completes keep (treesOf i.entries) (i.keeping keep) :=
  ((Completes.make keep Identity.mk).defaulted "address" (by simp) (faithful_text i.address)).elided
    "payment_address" (by simp) (decode_openText i.paymentAddress) |>.elided
    "state_path" (by simp) (decode_openText i.recordPath)

/-- The keys of an item of the list of containers, with their values. -/
def Container.entries (c : Container) : List (String × Value) :=
  [("id", .text c.id), ("image", .text c.image), ("gpu", .boolean c.gpu),
    ("description", .text c.description)]

/-- The keys that a container must have are kept. -/
def Container.needs (keep : String → Bool) (name : String) : Bool :=
  name == "id" || name == "image" || keep name

/-- The container with the kept values; otherwise it needs no graphics processor, and there are no words about
it. -/
def Container.keeping (keep : String → Bool) (c : Container) : Container :=
  { c with
    gpu := if keep "gpu" then c.gpu else false
    description := if keep "description" then c.description else "" }

theorem Container.completes (c : Container) (keep : String → Bool) :
    Container.layout.Completes (Container.needs keep) (treesOf c.entries) (c.keeping keep) :=
  (((Completes.make (Container.needs keep) Container.mk).required "id" (by simp) rfl
    (faithful_text c.id)).required "image" (by simp) rfl
    (faithful_text c.image)).defaulted "gpu" (by simp)
    (faithful_boolean c.gpu) |>.defaulted "description" (by simp)
    (faithful_text c.description)

/-- The keys of the section on logging, with their values. -/
def Log.entries (l : Log) : List (String × Value) :=
  [("path", openText l.path), ("level", .text l.level), ("format", .text l.form.name),
    ("file_level", .text l.fileLevel), ("rotation", .text l.rotation.name),
    ("max_files", .natural l.maxFiles.toNat)]

/-- The section with the kept values, and the standard ones otherwise. -/
def Log.keeping (keep : String → Bool) (l : Log) : Log :=
  let standard : Log := {}
  { path := if keep "path" then l.path else standard.path
    level := if keep "level" then l.level else standard.level
    form := if keep "format" then l.form else standard.form
    fileLevel := if keep "file_level" then l.fileLevel else standard.fileLevel
    rotation := if keep "rotation" then l.rotation else standard.rotation
    maxFiles := if keep "max_files" then l.maxFiles else standard.maxFiles }

theorem Log.completes (l : Log) (keep : String → Bool) :
    Log.layout.Completes keep (treesOf l.entries) (l.keeping keep) :=
  (((((Completes.make keep Log.mk).elided "path" (by simp) (decode_openText l.path)).defaulted
    "level" (by simp) (faithful_text l.level)).defaulted
    "format" (by simp) (LogForm.faithful l.form)).defaulted
    "file_level" (by simp) (faithful_text l.fileLevel)).defaulted
    "rotation" (by simp) (Rotation.faithful l.rotation) |>.defaulted
    "max_files" (by simp) (faithful_word64 l.maxFiles)

/-- The keys of the section on releases, with their values. -/
def ReleaseCheck.entries (r : ReleaseCheck) : List (String × Value) :=
  [("enabled", .boolean r.enabled), ("url", .text r.url)]

/-- The section with the kept values, and the standard ones otherwise. -/
def ReleaseCheck.keeping (keep : String → Bool) (r : ReleaseCheck) : ReleaseCheck :=
  let standard : ReleaseCheck := {}
  { enabled := if keep "enabled" then r.enabled else standard.enabled
    url := if keep "url" then r.url else standard.url }

theorem ReleaseCheck.completes (r : ReleaseCheck) (keep : String → Bool) :
    ReleaseCheck.layout.Completes keep (treesOf r.entries) (r.keeping keep) :=
  (Completes.make keep ReleaseCheck.mk).defaulted "enabled" (by simp) (faithful_boolean r.enabled)
    |>.defaulted "url" (by simp) (faithful_text r.url)

/-! ## Choices -/

/-- What of the settings is kept. -/
structure Choice where
  sections : String → Bool
  keys : String → String → Bool
  containers : Nat → String → Bool

def Choice.without (choice : Choice) (name : String) : Choice :=
  { choice with sections := fun other => other != name && choice.sections other }

/-- The choice with a section that has no key. -/
def Choice.emptied (choice : Choice) (name : String) : Choice :=
  { choice with
    sections := fun other => other == name || choice.sections other
    keys := fun other key => other != name && choice.keys other key }

variable (c : Settings) (choice : Choice)

/-- The settings with the kept values, and the standard ones otherwise. -/
def keeping : Settings :=
  let standard : Settings := {}
  { coordinator :=
      if choice.sections "coordinator" then c.coordinator.keeping (choice.keys "coordinator")
      else standard.coordinator
    node := if choice.sections "node" then c.node.keeping (choice.keys "node") else standard.node
    containers :=
      if choice.sections "containers" then
        c.containers.zipIdx.map fun m => m.1.keeping (choice.containers m.2)
      else standard.containers
    log := if choice.sections "log" then c.log.keeping (choice.keys "log") else standard.log
    releaseCheck :=
      if choice.sections "version_check" then c.releaseCheck.keeping (choice.keys "version_check")
      else standard.releaseCheck }

/-- The sections of the settings, of which some are kept, and which have some of their keys. -/
inductive Parts : List (String × Tree) → Prop
  | mk {coordinator node log releaseCheck : Tree} {containers : List Tree}
      (hcoordinator : Keeps (treesOf c.coordinator.entries) (choice.keys "coordinator") coordinator)
      (hnode : Keeps (treesOf c.node.entries) (choice.keys "node") node)
      (hcontainers : List.Forall₂ (fun m t =>
        Keeps (treesOf m.1.entries) (Container.needs (choice.containers m.2)) t)
        c.containers.zipIdx containers)
      (hlog : Keeps (treesOf c.log.entries) (choice.keys "log") log)
      (hreleaseCheck :
        Keeps (treesOf c.releaseCheck.entries) (choice.keys "version_check") releaseCheck) :
      Parts [("coordinator", coordinator), ("node", node), ("containers", .list containers .closed),
        ("log", log), ("version_check", releaseCheck)]

/-- A text tells what is kept of the settings: the records in it have the kept members, in any order, and any
others that the settings do not know. -/
def Tells (s : String) : Prop :=
  ∃ parts t, c.Parts choice parts ∧ Keeps parts choice.sections t ∧ Json.Stands s t

/-- The sections with their kept keys, in order and with nothing else. -/
def entries : List (String × Value) :=
  [("coordinator", kept (choice.keys "coordinator") c.coordinator.entries),
    ("node", kept (choice.keys "node") c.node.entries),
    ("containers", .list (c.containers.zipIdx.map fun m =>
      kept (Container.needs (choice.containers m.2)) m.1.entries)),
    ("log", kept (choice.keys "log") c.log.entries),
    ("version_check", kept (choice.keys "version_check") c.releaseCheck.entries)]

theorem parts_entries : c.Parts choice (treesOf (c.entries choice)) := by
  have hcontainers := forall₂_trees
    (fun m : Container × Nat => keeps_kept (Container.needs (choice.containers m.2)) m.1.entries)
    c.containers.zipIdx
  exact .mk (keeps_kept _ _) (keeps_kept _ _) hcontainers (keeps_kept _ _) (keeps_kept _ _)

/-- Whatever is to be kept, there is a text that tells it. -/
theorem tells_compact : c.Tells choice (Json.compact (kept choice.sections (c.entries choice))) :=
  ⟨_, _, c.parts_entries choice, keeps_kept _ _, .inr (Json.read_write Json.blank_compact _)⟩

variable {c choice}

/-- What is read of some of the keys of each section gives the settings. -/
theorem completes {parts : List (String × Tree)} (h : c.Parts choice parts) :
    layout.Completes choice.sections parts (c.keeping choice) := by
  obtain ⟨hcoordinator, hnode, hcontainers, hlog, hreleaseCheck⟩ := h
  have hlist := Document.Codec.decode_listOf
    (hcontainers.imp fun m _ ht => (m.1.completes (choice.containers m.2)).decode ht)
  exact ((((Completes.make choice.sections Settings.mk).defaulted "coordinator" (by simp)
    ((c.coordinator.completes _).decode hcoordinator)).defaulted "node" (by simp)
    ((c.node.completes _).decode hnode)).defaulted "containers" (by simp) hlist).defaulted
    "log" (by simp) ((c.log.completes _).decode hlog) |>.defaulted
    "version_check" (by simp) ((c.releaseCheck.completes _).decode hreleaseCheck)

theorem Tells.decode {s : String} (h : c.Tells choice s) :
    Json.decode codec s = .ok (c.keeping choice) := by
  obtain ⟨parts, t, hparts, ht, hs⟩ := h
  rw [Json.decode_eq_ok_iff, hs.read_eq]
  exact ⟨rfl, (completes hparts).decode ht⟩

/-- A section of which no key is kept is the standard one, as if it were not there. -/
theorem keeping_emptied {name : String} (h : name ∈ ["coordinator", "node", "log", "version_check"]) :
    c.keeping (choice.emptied name) = c.keeping (choice.without name) := by
  simp only [List.mem_cons, List.not_mem_nil, or_false] at h
  rcases h with rfl | rfl | rfl | rfl
  · simp [keeping, Choice.emptied, Choice.without, Coordinator.keeping]
  · simp [keeping, Choice.emptied, Choice.without, Identity.keeping]
  · simp [keeping, Choice.emptied, Choice.without, Log.keeping]
  · simp [keeping, Choice.emptied, Choice.without, ReleaseCheck.keeping]

/-! ## An example -/

/-- The record of the kept entries and of others, from the last one to the first. -/
def backwards (keep : String → Bool) (entries extra : List (String × Tree)) : Tree :=
  .record (seen (entries.filter (fun m => keep m.1) ++ extra)).reverse .closed

theorem keeps_backwards {keep : String → Bool} {entries extra : List (String × Tree)}
    (h : ∀ m ∈ extra, m.1 ∉ entries.map (·.1) ∧ m.2.isWhole = true) :
    Keeps entries keep (backwards keep entries extra) :=
  ⟨extra, _, h, List.reverse_perm _, rfl⟩

def sample : Settings where
  coordinator := { url := "http://c", apiKey := some "k", timeout := 5, maxRetries := 2 }
  containers := [{ id := "a", image := "b", gpu := true, description := "c" }]
  log := { level := "warn" }

def sampleChoice : Choice where
  sections name := name == "coordinator" || name == "containers"
  keys name key := name == "coordinator" && (key == "url" || key == "timeout_secs")
  containers _ _ := false

/-- A file with an empty section on logging. -/
def emptyLog : String :=
  "\x7b\"note\": \"\\ud800\", \"log\": \x7b\x7d, \"containers\": [\x7b\"more\": [\x7b\x7d], \"image\": \"b\",
  \"id\": \"a\"\x7d], \"coordinator\": \x7b\"timeout_secs\": 5, \"url\": \"http://c\"\x7d\x7d"

/-- The same file without that section. -/
def noLog : String :=
  "\x7b\"note\": \"\\ud800\", \"containers\": [\x7b\"more\": [\x7b\x7d], \"image\": \"b\",
  \"id\": \"a\"\x7d], \"coordinator\": \x7b\"timeout_secs\": 5, \"url\": \"http://c\"\x7d\x7d"

def sampleParts (choice : Choice) : List (String × Tree) :=
  [("coordinator",
      backwards (choice.keys "coordinator") (treesOf sample.coordinator.entries) []),
    ("node", backwards (choice.keys "node") (treesOf sample.node.entries) []),
    ("containers", .list (sample.containers.zipIdx.map fun m =>
      backwards (Container.needs (choice.containers m.2)) (treesOf m.1.entries)
        [("more", .list [.record [] .closed] .closed)]) .closed),
    ("log", backwards (choice.keys "log") (treesOf sample.log.entries) []),
    ("version_check",
      backwards (choice.keys "version_check") (treesOf sample.releaseCheck.entries) [])]

/-- The record of these parts, with a note that the settings do not know. -/
def sampleTold (choice : Choice) : Tree :=
  backwards choice.sections (sampleParts choice) [("note", .text none)]

theorem sample_tells {choice : Choice} {s : String} (h : Json.read s = (sampleTold choice, true)) :
    sample.Tells choice s := by
  refine ⟨sampleParts choice, _, .mk ?_ ?_ (.cons ?_ .nil) ?_ ?_, ?_, .inr h⟩
  · exact keeps_backwards (by decide)
  · exact keeps_backwards (by decide)
  · exact keeps_backwards (by decide)
  · exact keeps_backwards (by decide)
  · exact keeps_backwards (by decide)
  · exact keeps_backwards (by simp [sampleParts, Tree.isWhole])

/-- What a reader sees of the file. -/
def sampleTree (log : List (Option String × Tree)) : Tree :=
  .record ((some "note", .text none) :: (log ++
    [(some "containers", .list [.record [(some "more", .list [.record [] .closed] .closed),
      (some "image", .text (some "b")), (some "id", .text (some "a"))] .closed] .closed),
      (some "coordinator", .record [(some "timeout_secs", .numeral ⟨false, ['5'], none, none⟩),
        (some "url", .text (some "http://c"))] .closed)])) .closed

theorem sampleTold_eq :
    sampleTold (sampleChoice.without "log") = sampleTree [] ∧
    sampleTold (sampleChoice.emptied "log") = sampleTree [(some "log", .record [] .closed)] := by
  have hfive : Text.toDecimal 5 = ['5'] := by decide +kernel
  constructor <;>
    simp [sampleTold, sampleTree, sampleParts, sampleChoice, sample, backwards, seen, treesOf, hfive,
      Choice.without, Choice.emptied, Container.needs, Container.entries, Coordinator.entries, Value.tree]

theorem read_noLog : Json.read noLog = (sampleTree [], true) := by
  cbv

theorem read_emptyLog : Json.read emptyLog = (sampleTree [(some "log", .record [] .closed)], true) := by
  cbv

/-- Whatever is kept of settings, it can be told. A text that tells it is read as the settings with the kept
values and the standard ones otherwise, in whatever order it tells them and whatever it tells besides. A
section that is missing and one without any key are read alike. -/
theorem partial_settings_completed (c : Settings) (choice : Choice) :
    (∃ s, c.Tells choice s) ∧
    (∀ s, c.Tells choice s → Json.decode codec s = .ok (c.keeping choice)) ∧
    ∀ name ∈ ["coordinator", "node", "log", "version_check"], ∀ s s',
      c.Tells (choice.without name) s → c.Tells (choice.emptied name) s' →
      Json.decode codec s = Json.decode codec s' := by
  refine ⟨⟨_, c.tells_compact choice⟩, fun s hs => hs.decode, ?_⟩
  intro name hname s s' hs hs'
  rw [hs.decode, hs'.decode, keeping_emptied hname]

/-- What was read of the file has the standard values besides what it tells, whether it has an empty section on
logging or none. -/
theorem sample_completed :
    Json.decode codec emptyLog =
      .ok { coordinator := { url := "http://c", timeout := 5 }
            containers := [{ id := "a", image := "b" }] } ∧
    Json.decode codec noLog = Json.decode codec emptyLog := by
  obtain ⟨htold, htold'⟩ := sampleTold_eq
  have hwithout : sample.Tells (sampleChoice.without "log") noLog :=
    sample_tells (htold ▸ read_noLog)
  have hemptied : sample.Tells (sampleChoice.emptied "log") emptyLog :=
    sample_tells (htold' ▸ read_emptyLog)
  constructor
  · rw [(partial_settings_completed sample (sampleChoice.emptied "log")).2.1 _ hemptied]
    decide
  · exact (partial_settings_completed sample sampleChoice).2.2 "log" (by decide) _ _ hwithout hemptied

end Settings

end Enrollment

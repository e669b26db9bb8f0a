import Enrollment.Proofs.Command.ReleaseCheck
import Enrollment.Proofs.Settings.Variables
/-!
# Settings that pass

Settings that pass give a connection. The life of the node is at hand too, unless the place of the
record names a variable that is not set: that is found out only when the record is to be kept, which
for a node that is registered or activated is after the look at releases.

Results:
 1. `Settings.lifecycle_isOk_iff`: when the life of the node is at hand.
 2. `Command.run_of_no_lifecycle`: what a command does when it is not.
 3. `Session.passed_settings`: both, of settings that pass.
-/

namespace Enrollment

open Host (sent)

variable {σ : Type}

namespace Settings

/-- Every variable that the place of the record needs is set. -/
def PlacesRecord (s : Settings) (env : Environment) : Prop :=
  ∀ path ∈ s.node.recordPath, ∀ name ∈ neededIn path.toList, isUnset env name = false

theorem expandPath_isOk_iff {env : Environment} {path : String} :
    (∃ p, expandPath env path = .ok p) ↔ ∀ name ∈ neededIn path.toList, isUnset env name = false := by
  rw [← expand_isOk_iff]
  unfold expandPath
  cases expand env path with
  | ok p => exact iff_of_true ⟨p, rfl⟩ ⟨p, rfl⟩
  | error name => exact iff_of_false nofun nofun

theorem recordPath_isOk_iff {s : Settings} {env : Environment} :
    (∃ path, s.recordPath env = .ok path) ↔ s.PlacesRecord env := by
  unfold recordPath PlacesRecord
  cases s.node.recordPath with
  | some path =>
    rw [expandPath_isOk_iff]
    exact ⟨fun h p hp => Option.some.inj hp ▸ h, fun h => h path rfl⟩
  | none =>
    refine iff_of_true ?_ nofun
    cases dataHome? env with
    | none => exact ⟨_, rfl⟩
    | some home => exact ⟨_, rfl⟩

/-- With settings that pass, the life of the node is at hand exactly if its record has a place. -/
theorem lifecycle_isOk_iff {s : Settings} (h : s.validate = .ok ()) {env : Environment}
    {coordinatorUrl : String} :
    (∃ l, s.lifecycle env coordinatorUrl = .ok l) ↔ s.PlacesRecord env := by
  obtain ⟨address, haddress⟩ := nodeAddress_of_validate h
  obtain ⟨payment, hpayment⟩ := paymentAddress_of_validate h
  rw [← recordPath_isOk_iff]
  unfold lifecycle
  rw [haddress, hpayment]
  cases s.recordPath env with
  | ok path => exact iff_of_true ⟨_, rfl⟩ ⟨path, rfl⟩
  | error f => exact iff_of_false nofun nofun

end Settings

theorem Session.connection_of_valid {s : Session} (h : s.settings.validate = .ok ()) :
    ∃ c, s.settings.coordinator.connect = .ok c ∧ s.connection = .ok c := by
  obtain ⟨c, hc⟩ := Settings.connect_of_validate h
  refine ⟨c, hc, ?_⟩
  unfold connection
  rw [h, hc]
  rfl

/-- Without the life of the node, a command on it looks for releases, if it does that at all, and
fails. -/
theorem Command.run_of_no_lifecycle {s : Session} {c : Client.Connection}
    (hc : s.connection = .ok c) {t : Trouble} (ht : s.lifecycle c = .error t) {command : Command}
    (hcommand : command.concernsNode = true) :
    (run s command).run = (if command.looksForRelease then s.checkRelease c else pure ()).bind fun _ =>
      .done (.error t) := by
  rw [run_eq s hcommand, hc]
  show (continueOver s command c).run = _
  unfold continueOver behindLook
  rw [ht]
  generalize (if command.looksForRelease = true then s.checkRelease c else pure ()) = look
  rw [Task.run_bind, Task.run_lift, Plan.bind_assoc]
  rfl

/-- Settings that pass give a connection. They give the life of the node exactly if every variable is
set that the place of the record needs; else registering and activating fail, and have then sent the
request for the manifest, if that is wanted and can be asked for. -/
theorem Session.passed_settings {s : Session} (h : s.settings.validate = .ok ()) :
    ∃ c, s.settings.coordinator.connect = .ok c ∧
      ((∃ l, s.settings.lifecycle s.environment c.baseUrl = .ok l) ↔
        s.settings.PlacesRecord s.environment) ∧
      (¬s.settings.PlacesRecord s.environment →
        ∀ command : Command, command.looksForRelease = true →
          ∀ (answer : (q : Host.Request) → σ → Host.Answer q × σ) (w : σ),
            ∃ f, s.settings.lifecycle s.environment c.baseUrl = .error f ∧
              ((Command.run s command).run.run answer w).1 = .error f.toTrouble ∧
              sent ((Command.run s command).run.transcript answer w) = s.manifest?.toList) := by
  obtain ⟨c, hconnect, hc⟩ := connection_of_valid h
  refine ⟨c, hconnect, Settings.lifecycle_isOk_iff h, fun hplace command hlooks answer w => ?_⟩
  cases hlife : s.settings.lifecycle s.environment c.baseUrl with
  | ok l => exact absurd ((Settings.lifecycle_isOk_iff h).1 ⟨l, hlife⟩) hplace
  | error f =>
    have ht : s.lifecycle c = .error f.toTrouble := by
      unfold lifecycle
      rw [hlife]
      rfl
    have hnode := Command.concernsNode_of_looksForRelease hlooks
    refine ⟨f, rfl, ?_⟩
    rw [Command.run_of_no_lifecycle hc ht hnode, if_pos hlooks, Plan.run_bind, Plan.transcript_bind,
      Host.sent_append, s.sent_checkRelease]
    exact ⟨rfl, List.append_nil _⟩

/-- A node whose record is to be kept below a variable that is not set. -/
def strayRecord : Session where
  settings := {
    coordinator := { url := "http://[::1]" }
    node := {
      address := "0x70997970c51812dc3a010c7d01b50e0d17dc79c8"
      recordPath := some "$NOWHERE/reg.json" }
    releaseCheck := { url := "http://[::1]/Cargo.toml" } }
  settingsPath := "config.json"
  environment := []

/-- The settings of such a node pass, and when it is registered the manifest is asked for before that
fails. -/
theorem strayRecord_is_found_out_late :
    strayRecord.settings.validate = .ok () ∧
      ¬strayRecord.settings.PlacesRecord strayRecord.environment ∧
      (∃ r, sent ((Command.run strayRecord .register).run.transcript Host.World.answer .empty) = [r]) ∧
      ∃ t, ((Command.run strayRecord .register).run.run Host.World.answer .empty).1 = .error t := by
  have hvalid : strayRecord.settings.validate = .ok () := by rfl
  have hplace : ¬strayRecord.settings.PlacesRecord strayRecord.environment := by
    intro h
    have hneeded : Settings.neededIn "$NOWHERE/reg.json".toList = ["NOWHERE"] := by decide +kernel
    have := h _ rfl "NOWHERE" (by rw [hneeded]; exact List.mem_cons_self)
    cases this
  obtain ⟨r, hr⟩ : ∃ r, strayRecord.manifest? = some r := ⟨_, by rfl⟩
  obtain ⟨c, -, -, hfails⟩ := Session.passed_settings hvalid
  obtain ⟨f, -, hvalue, hsent⟩ := hfails hplace .register rfl Host.World.answer .empty
  exact ⟨hvalid, hplace, ⟨r, by rw [hsent, hr]; rfl⟩, _, hvalue⟩

end Enrollment

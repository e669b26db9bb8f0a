import Enrollment.Node.Image
import Enrollment.Output.Form
import Enrollment.Proofs.Document.Layout
import Enrollment.Proofs.Json.RoundTrip
import Enrollment.Proofs.Registration.Record
import Enrollment.Settings.Basic
/-!
# What is kept and sent reads back

Every type of which values are written to files, sent, or printed as documents, with its codec. A
codec is made field by field, so a value is read back because each of its fields is.

Results:
 1. `Kind.faithful`: what any of the codecs writes reads back as a tree.
 2. `written_reads_back`: it reads back as a text, on one line or indented, so rewriting a document
    once more changes nothing.
-/

namespace Enrollment

open Document (Codec Layout)
open Document.Codec (faithful_text faithful_boolean faithful_word64 faithful_word32 faithful_address
  faithful_instant faithful_named faithful_listOf faithful_optional_none faithful_optional_some)

namespace Document.Codec

variable {α : Type}

/-- A value that may be left open reads back if no value is written like one that is left open. -/
theorem faithful_optional {c : Codec α} (h : ∀ a, c.Faithful a) (hnull : ∀ a, c.encode a ≠ .null)
    (o : Option α) : c.optional.Faithful o := by
  cases o with
  | none => exact faithful_optional_none c
  | some a => exact faithful_optional_some (h a) (hnull a)

theorem text_ne_null (s : String) : text.encode s ≠ .null := by
  intro h
  cases h

theorem address_ne_null (a : Address) : address.encode a ≠ .null := by
  intro h
  cases h

theorem instant_ne_null (t : Instant) : instant.encode t ≠ .null := by
  intro h
  cases h

end Document.Codec

open Document.Codec (faithful_optional text_ne_null address_ne_null instant_ne_null)

/-! ## What is sent -/

namespace Node

theorem Status.faithful (s : Status) : Status.codec.Faithful s :=
  faithful_named (Status.mem_all s) fun _ _ => Status.name_injective

theorem Entry.reads (e : Entry) : Entry.layout.Reads e e :=
  ((((Layout.Reads.make Entry.mk e).required "address" (by decide)
    (faithful_address e.address)).defaulted "status" (by decide)
    (Status.faithful e.status)).defaulted "registration_id" (by decide)
    (faithful_optional faithful_text text_ne_null e.registrationId)).defaulted
    "cooldown_start" (by decide)
    (faithful_optional faithful_instant instant_ne_null e.cooldownStart) |>.defaulted
    "cooldown_secs" (by decide) (faithful_word64 e.cooldown)

theorem Entry.faithful (e : Entry) : Entry.codec.Faithful e :=
  e.reads.faithful

end Node

namespace Registration

theorem Request.reads (r : Request) : Request.layout.Reads r r :=
  (((Layout.Reads.make Request.mk r).required "address" (by decide)
    (faithful_address r.address)).elided "payment_address" (by decide)
    fun a _ => ⟨faithful_address a, address_ne_null a⟩).required "version" (by decide)
    (faithful_text r.version) |>.defaulted "containers" (by decide)
    (faithful_listOf fun id _ => faithful_text id)

theorem Request.faithful (r : Request) : Request.codec.Faithful r :=
  r.reads.faithful

theorem Receipt.reads (r : Receipt) : Receipt.layout.Reads r r :=
  ((((Layout.Reads.make Receipt.mk r).required "address" (by decide)
    (faithful_address r.address)).required "registration_id" (by decide)
    (faithful_text r.registrationId)).defaulted "status" (by decide)
    (Node.Status.faithful r.status)).required "registered_at" (by decide)
    (faithful_instant r.registeredAt) |>.defaulted "cooldown_secs" (by decide)
    (faithful_word64 r.cooldown)

theorem Receipt.faithful (r : Receipt) : Receipt.codec.Faithful r :=
  r.reads.faithful

end Registration

namespace Activation

theorem Request.reads (r : Request) : Request.layout.Reads r r :=
  (Layout.Reads.make Request.mk r).required "registration_id" (by decide)
    (faithful_text r.registrationId)

theorem Request.faithful (r : Request) : Request.codec.Faithful r :=
  r.reads.faithful

theorem Receipt.reads (r : Receipt) : Receipt.layout.Reads r r :=
  ((Layout.Reads.make Receipt.mk r).required "address" (by decide)
    (faithful_address r.address)).defaulted "status" (by decide)
    (Node.Status.faithful r.status) |>.required "activated_at" (by decide)
    (faithful_instant r.activatedAt)

theorem Receipt.faithful (r : Receipt) : Receipt.codec.Faithful r :=
  r.reads.faithful

end Activation

/-! ## What is printed -/

namespace Image

theorem Variant.faithful (v : Variant) : Variant.codec.Faithful v := by
  apply faithful_named
  · cases v <;> decide
  · cases v <;> decide

theorem reads (i : Image) : layout.Reads i i :=
  (Layout.Reads.make Image.mk i).required "tag" (by decide) (faithful_text i.tag) |>.defaulted
    "variant" (by decide) (Variant.faithful i.variant)

theorem faithful (i : Image) : codec.Faithful i :=
  i.reads.faithful

end Image

theorem Output.Form.faithful (f : Form) : Form.codec.Faithful f := by
  apply faithful_named
  · cases f <;> decide
  · cases f <;> decide

/-! ## Settings -/

namespace Settings

theorem Coordinator.reads (c : Coordinator) : Coordinator.layout.Reads c c :=
  (((Layout.Reads.make Coordinator.mk c).defaulted "url" (by decide)
    (faithful_text c.url)).elided "api_key" (by decide)
    fun s _ => ⟨faithful_text s, text_ne_null s⟩).defaulted "timeout_secs" (by decide)
    (faithful_word64 c.timeout) |>.defaulted "max_retries" (by decide)
    (faithful_word32 c.maxRetries)

theorem Identity.reads (i : Identity) : Identity.layout.Reads i i :=
  ((Layout.Reads.make Identity.mk i).defaulted "address" (by decide)
    (faithful_text i.address)).elided "payment_address" (by decide)
    (fun s _ => ⟨faithful_text s, text_ne_null s⟩) |>.elided "state_path" (by decide)
    fun s _ => ⟨faithful_text s, text_ne_null s⟩

theorem Container.reads (c : Container) : Container.layout.Reads c c :=
  (((Layout.Reads.make Container.mk c).required "id" (by decide)
    (faithful_text c.id)).required "image" (by decide)
    (faithful_text c.image)).defaulted "gpu" (by decide)
    (faithful_boolean c.gpu) |>.defaulted "description" (by decide)
    (faithful_text c.description)

theorem LogForm.faithful (f : LogForm) : (Codec.named LogForm.name [.text, .json]).Faithful f := by
  apply faithful_named
  · cases f <;> decide
  · cases f <;> decide

theorem Rotation.faithful (r : Rotation) :
    (Codec.named Rotation.name [.never, .hourly, .daily]).Faithful r := by
  apply faithful_named
  · cases r <;> decide
  · cases r <;> decide

theorem Log.reads (l : Log) : Log.layout.Reads l l :=
  (((((Layout.Reads.make Log.mk l).elided "path" (by decide)
    fun s _ => ⟨faithful_text s, text_ne_null s⟩).defaulted "level" (by decide)
    (faithful_text l.level)).defaulted "format" (by decide)
    (LogForm.faithful l.form)).defaulted "file_level" (by decide)
    (faithful_text l.fileLevel)).defaulted "rotation" (by decide)
    (Rotation.faithful l.rotation) |>.defaulted "max_files" (by decide)
    (faithful_word64 l.maxFiles)

theorem ReleaseCheck.reads (r : ReleaseCheck) : ReleaseCheck.layout.Reads r r :=
  (Layout.Reads.make ReleaseCheck.mk r).defaulted "enabled" (by decide)
    (faithful_boolean r.enabled) |>.defaulted "url" (by decide) (faithful_text r.url)

theorem reads (s : Settings) : layout.Reads s s :=
  ((((Layout.Reads.make Settings.mk s).defaulted "coordinator" (by decide)
    s.coordinator.reads.faithful).defaulted "node" (by decide)
    s.node.reads.faithful).defaulted "containers" (by decide)
    (faithful_listOf fun c _ => c.reads.faithful)).defaulted "log" (by decide)
    s.log.reads.faithful |>.defaulted "version_check" (by decide)
    s.releaseCheck.reads.faithful

theorem faithful (s : Settings) : codec.Faithful s :=
  s.reads.faithful

end Settings

/-! ## All of them -/

namespace Document

/-- The types of which values are kept in files, sent, or printed. -/
inductive Kind
  | address
  | status
  | entry
  | registrationRequest
  | registrationReceipt
  | activationRequest
  | activationReceipt
  | record
  | image
  | variant
  | settings
  | form
  deriving DecidableEq, Repr

namespace Kind

@[reducible] def Carrier : Kind → Type
  | address => Address
  | status => Node.Status
  | entry => Node.Entry
  | registrationRequest => Registration.Request
  | registrationReceipt => Registration.Receipt
  | activationRequest => Activation.Request
  | activationReceipt => Activation.Receipt
  | record => Registration.Record
  | image => Image
  | variant => Image.Variant
  | settings => Settings
  | form => Output.Form

/-- How the values of a type are read and written. -/
def codec : (k : Kind) → Codec k.Carrier
  | address => .address
  | status => Node.Status.codec
  | entry => Node.Entry.codec
  | registrationRequest => Registration.Request.codec
  | registrationReceipt => Registration.Receipt.codec
  | activationRequest => Activation.Request.codec
  | activationReceipt => Activation.Receipt.codec
  | record => Registration.Record.codec
  | image => Image.codec
  | variant => Image.Variant.codec
  | settings => Settings.codec
  | form => Output.Form.codec

theorem faithful (k : Kind) (v : k.Carrier) : k.codec.Faithful v := by
  cases k with
  | address => exact faithful_address v
  | status => exact Node.Status.faithful v
  | entry => exact Node.Entry.faithful v
  | registrationRequest => exact Registration.Request.faithful v
  | registrationReceipt => exact Registration.Receipt.faithful v
  | activationRequest => exact Activation.Request.faithful v
  | activationReceipt => exact Activation.Receipt.faithful v
  | record => exact Registration.Record.faithful v
  | image => exact Image.faithful v
  | variant => exact Image.Variant.faithful v
  | settings => exact Settings.faithful v
  | form => exact Output.Form.faithful v

/-- Reads a text as a value of a type, and writes the value. -/
def rewrite (k : Kind) (print : Value → String) (s : String) : Except Fault String := do
  let v ← Json.decode k.codec s
  return print (k.codec.encode v)

/-- What is rewritten twice is rewritten once, if what is printed reads back. -/
theorem rewrite_rewrite {k : Kind} {print : Value → String}
    (h : ∀ v, Json.decode k.codec (print (k.codec.encode v)) = .ok v) (s : String) :
    (k.rewrite print s >>= k.rewrite print) = k.rewrite print s := by
  unfold rewrite
  cases Json.decode k.codec s with
  | error fault => rfl
  | ok v =>
    show (Json.decode k.codec (print (k.codec.encode v)) >>= fun v => _) = _
    rw [h v]

end Kind

/-- What is written of a value, on one line or indented, reads back as that value. So a document
that was read and written stays the same when that is done again. -/
theorem written_reads_back (k : Kind) :
    (∀ v : k.Carrier, Json.decode k.codec (Json.compact (k.codec.encode v)) = .ok v ∧
      Json.decode k.codec (Json.pretty (k.codec.encode v)) = .ok v) ∧
    ∀ s : String,
      (k.rewrite Json.compact s >>= k.rewrite Json.compact) = k.rewrite Json.compact s ∧
      (k.rewrite Json.pretty s >>= k.rewrite Json.pretty) = k.rewrite Json.pretty s := by
  have hcompact := fun v => Json.decode_compact (k.faithful v)
  have hpretty := fun v => Json.decode_pretty (k.faithful v)
  constructor
  · intro v
    exact ⟨hcompact v, hpretty v⟩
  · intro s
    exact ⟨Kind.rewrite_rewrite hcompact s, Kind.rewrite_rewrite hpretty s⟩

end Document

end Enrollment

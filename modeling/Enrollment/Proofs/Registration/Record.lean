import Enrollment.Proofs.Document.Layout
import Enrollment.Proofs.Json.RoundTrip
import Enrollment.Proofs.Text.Utf8
import Enrollment.Registration.Store
/-!
# Records read back

What is written of a record is read back as that record, from the bytes of the file on.

Results:
 1. `Record.faithful`: as a document.
 2. `Store.interpret_written`: as the text of a file.
-/

namespace Enrollment.Registration

open Document (Codec Layout)

theorem Record.reads (r : Record) : Record.layout.Reads r r := by
  have haddress := (Layout.Reads.make Record.mk r).required "address" (by decide)
    (Codec.faithful_address r.address)
  have hid := haddress.required "registration_id" (by decide)
    (Codec.faithful_text r.registrationId)
  have hurl := hid.required "coordinator_url" (by decide)
    (Codec.faithful_text r.coordinatorUrl)
  have hregistered := hurl.required "registered_at" (by decide)
    (Codec.faithful_instant r.registeredAt)
  apply hregistered.elided "activated_at" (by decide)
  intro t _
  refine ⟨Codec.faithful_instant t, ?_⟩
  intro h
  cases h

theorem Record.faithful (r : Record) : Record.codec.Faithful r :=
  r.reads.faithful

namespace Store

def written (r : Record) : String :=
  Json.pretty (Record.codec.encode r)

theorem interpret_written (s : Store) (r : Record) : s.interpret (.ok (written r)) = .ok (some r) := by
  rw [interpret, written, Json.decode_pretty r.faithful]

end Store

end Enrollment.Registration

import Enrollment.Client.Connection
import Enrollment.Release.Manifest
/-!
# Looking for releases

Comparing this build with the release that a manifest names.
-/

namespace Enrollment.Release

open Client (Connection Wire)

/-- How this build compares with the latest release. -/
inductive Standing
  | upToDate
  | outdated (latest : String)
  deriving DecidableEq, Repr

def Standing.encode : Standing → Document.Value
  | upToDate => .record [("status", .text "up_to_date"), ("current", .text buildVersion)]
  | outdated latest =>
    .record [("status", .text "outdated"), ("current", .text buildVersion),
      ("latest", .text latest)]

/-- The version that the manifest at a URL names. -/
def latest (c : Connection) (url : String) : Plan Wire (Except Failure String) := do
  match ← c.getText url with
  | .error f => return .error f
  | .ok manifest =>
    match version? manifest with
    | some version => return .ok version
    | none => return .error (.release ("no version found at " ++ url))

/-- Compares this build with the release that the manifest at a URL names. -/
def check (c : Connection) (url : String) : Plan Wire (Except Failure Standing) := do
  match ← latest c url with
  | .error f => return .error f
  | .ok latest =>
    Wire.note .debug "Fetched latest release version"
      [("latest", latest), ("current", buildVersion)]
    return .ok (if latest = buildVersion then .upToDate else .outdated latest)

/-- Warns if this build is not the latest release, or if that cannot be found out. -/
def warnIfOutdated (c : Connection) (url : String) : Plan Wire Unit := do
  match ← check c url with
  | .ok .upToDate => return ()
  | .ok (.outdated latest) =>
    Wire.note .warn ("Your node version (v" ++ buildVersion ++
        ") does not match the latest release (v" ++ latest ++ "). Consider updating your node.")
      [("current", buildVersion), ("latest", latest)]
  | .error f => Wire.note .warn "Failed to fetch latest node version" [("error", f.message)]

end Enrollment.Release

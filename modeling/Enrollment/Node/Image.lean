import Enrollment.Document.Codec
/-!
# Container images

The published images of the node's software, and the version that this build is.
-/

namespace Enrollment

open Document (Codec Layout)

def buildVersion : String := "1.2.0"

inductive Image.Variant
  | cpu
  | gpu
  deriving DecidableEq, Repr

structure Image where
  /-- The tag without what stands for the variant. -/
  tag : String
  variant : Image.Variant
  deriving DecidableEq, Repr

namespace Image

def Variant.name : Variant → String
  | .cpu => "cpu"
  | .gpu => "gpu"

def Variant.codec : Codec Variant :=
  .named name [.cpu, .gpu]

/-- The fields of an image in a document. -/
def layout : Layout Image Image :=
  (Layout.make Image.mk).required "tag" .text (·.tag) |>.defaulted
    "variant" Variant.codec .cpu (·.variant)

def codec : Codec Image :=
  layout.codec

def repository : String := "ritualnetwork/infernet-node"

def standard : Image := ⟨"1.2.0", .cpu⟩

/-- The tag with what stands for the variant. -/
def fullTag (i : Image) : String :=
  match i.variant with
  | .cpu => i.tag
  | .gpu => i.tag ++ "-gpu"

/-- The reference under which an image is fetched. -/
def reference (i : Image) : String :=
  repository ++ ":" ++ i.fullTag

instance : ToString Image := ⟨reference⟩

def ofBuild : List Image :=
  [⟨buildVersion, .cpu⟩, ⟨buildVersion, .gpu⟩]

end Image

end Enrollment

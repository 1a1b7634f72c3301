import Governance.Digest.Sha256
import Governance.Json.Canonical

/-!
# Digests of documents

A document's canonical bytes and the digest over them, which identifies the document whatever its
layout was.
-/

namespace Governance.Digest

/-- The bytes that stand for the document `j` under a digest: its `canonical` text in UTF-8. -/
def canonicalBytes (j : Json) : List UInt8 := j.canonical.toUTF8.toList

/-- A digest, thirty-two `bytes`. -/
structure ContentDigest where
  bytes : List UInt8
deriving DecidableEq

/-- The digest of the document `j`. -/
def ContentDigest.of (j : Json) : ContentDigest := ⟨sha256 (canonicalBytes j)⟩

namespace ContentDigest

/-- The `bytes` of `d` in base sixteen, two digits for each. -/
def hex (d : ContentDigest) : String :=
  String.ofList (d.bytes.flatMap fun b => Text.paddedHex 2 b.toNat)

/-- The digest `d` with the name of its algorithm. -/
def label (d : ContentDigest) : String := "sha256:" ++ d.hex

def toJson (d : ContentDigest) : Json :=
  .object [("algorithm", .text "sha256"), ("bytes", .array (d.bytes.map fun b => .nat b.toNat))]

theorem length_bytes_of (j : Json) : (ContentDigest.of j).bytes.length = 32 := length_sha256 _

end ContentDigest

end Governance.Digest

import Reshape.Calendar.Instant
import Reshape.Digest.Md5

/-! What expressions can see beside their scope: the current time and a fingerprint of texts. -/
namespace Reshape

structure Environment where
  now : Instant
  fingerprint : String → String

/-- The environment at an instant, with MD5 digests as fingerprints. -/
def Environment.at (now : Instant) : Environment := ⟨now, Md5.hex⟩

end Reshape

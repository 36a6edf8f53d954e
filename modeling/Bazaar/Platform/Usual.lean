import Bazaar.Platform
import Bazaar.Text.Charset

/-!
# The usual platform

The platform with its usual limit on digits and with all codecs, and with a stack of the usual size.
-/

namespace Bazaar.Platform

/-- The usual platform.  Taking a hit up needs two places on the stack for each level, reading and
printing one. -/
@[reducible] def usual : Platform where
  digitLimit := some ⟨4300, by decide⟩
  jsonLevels := 970
  yamlLevels := 485
  shownLevels := none
  takenLevels := 485
  printedLevels := 970
  codec := Text.Charset.codec?

end Bazaar.Platform

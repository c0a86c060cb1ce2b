/-!
# Release

The version under which the library names itself.
-/

namespace Clausal.Release

/-- The version that the library reports. -/
def version : String := "0.1.0"

end Clausal.Release

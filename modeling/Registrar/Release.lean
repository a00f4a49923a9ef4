/-!
# The release

What the program calls itself.
-/

namespace Registrar

/-- The name of the program. -/
def programName : String := "campus-sync"

/-- The version of the program; recordings are marked with it. -/
def version : String := "0.1.0"

end Registrar

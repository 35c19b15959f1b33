/-!
# The version

Which release of the library this is.
-/

namespace FileSieve

/-- The version of the library. -/
def version : String := "0.9.0"

end FileSieve

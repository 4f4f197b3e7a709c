/-!
# Nesting

What stands in brackets is read within what stands around it, and nothing is read that is too deep inside. Each reader
says for itself how deep that is; what is said then is the same.
-/

namespace Rehearsal.Nesting

/-- What is said of a text whose parts are too deep within each other. -/
def message : String := "maximum recursion depth exceeded"

end Rehearsal.Nesting

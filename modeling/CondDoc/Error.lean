import CondDoc.Failure
import CondDoc.Schema.Fault
import CondDoc.Value.Datum

namespace CondDoc

inductive Error where
  | data (error : DataError)
  | record (faults : List Schema.Fault)
  | template (failure : Failure)
  deriving DecidableEq

end CondDoc

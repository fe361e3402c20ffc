import RestService.Collection.Memory
import RestService.Proofs.Decimal.Digits
import RestService.Proofs.Text.Pieces

set_option autoImplicit false

namespace RestService

namespace PathPattern

end PathPattern

end RestService

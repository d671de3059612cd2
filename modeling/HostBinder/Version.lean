set_option autoImplicit false

namespace HostBinder

def version : String := "0.1.0"

end HostBinder

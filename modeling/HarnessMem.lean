import HarnessMem.Json
import HarnessMem.Text.Chars
import HarnessMem.Text.Utf8
import HarnessMem.Json.Loads
import HarnessMem.Wire
import HarnessMem.Query
import HarnessMem.Client.Request
import HarnessMem.Client.Operations
import HarnessMem.Adapter

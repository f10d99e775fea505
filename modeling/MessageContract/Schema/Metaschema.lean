import MessageContract.Schema.Metaschema.Draft2019
import MessageContract.Schema.Metaschema.Draft2020
import MessageContract.Schema.Metaschema.Draft4
import MessageContract.Schema.Metaschema.Draft6
import MessageContract.Schema.Metaschema.Draft7

/-!
# The schemas of schemas

What each draft asks of a schema, as schemas.
-/

namespace MessageContract.Metaschema

/-- All schemas of schemas with their drafts. -/
def all : List (Draft × Json) :=
  [(.draft4, Draft4.schema), (.draft6, Draft6.schema), (.draft7, Draft7.schema)] ++
    Draft2019.schemas.map (.draft2019, ·) ++ Draft2020.schemas.map (.draft2020, ·)

end MessageContract.Metaschema

import Accord.Schema.Build

namespace Accord

def stepSchema : Schema := .union [Schema.plainString, Schema.plainInteger]

def detailSchema : Schema :=
  .object {
    name := "ErrorDetail"
    fields := [("msg", { schema := Schema.plainString }),
      ("loc", Field.asOptional { schema := Schema.listOf stepSchema }),
      ("type", { schema := Schema.plainString })] }

def errorModel : Schema :=
  .object { name := "ErrorModel", fields := [("detail", { schema := Schema.listOf detailSchema })] }

end Accord

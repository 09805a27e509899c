import Accord.Text.Utf8

namespace Accord.Trial

def boundary : String := "heron-test-boundary"

inductive UploadPart where
  | text (name value : String)
  | file (name filename contentType : String) (content : Bytes)
  deriving DecidableEq, Repr

namespace UploadPart

def head : UploadPart → String
  | text name _ =>
    "--" ++ boundary ++ "\r\nContent-Disposition: form-data; name=\"" ++ name ++ "\"\r\n\r\n"
  | file name filename contentType _ =>
    "--" ++ boundary ++ "\r\nContent-Disposition: form-data; name=\"" ++ name ++
      "\"; filename=\"" ++ filename ++ "\"\r\nContent-Type: " ++ contentType ++ "\r\n\r\n"

def data : UploadPart → Bytes
  | text _ value => Text.utf8 value
  | file _ _ _ content => content

def bytes (p : UploadPart) : Bytes := Text.utf8 p.head ++ p.data ++ [13, 10]

end UploadPart

def uploadBody (parts : List UploadPart) : Bytes :=
  parts.flatMap UploadPart.bytes ++ Text.utf8 ("--" ++ boundary ++ "--\r\n")

end Accord.Trial

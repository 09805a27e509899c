import Accord.Failure
import Accord.Json.Printer
import Accord.Message.Cookie
import Accord.Message.Headers
import Accord.Text.Order

namespace Accord

structure Response where
  status : Status
  headers : Headers := Headers.empty
  body : Bytes := []
  cookies : Named NewCookie := []
  deriving Inhabited

namespace Response

def withBody (body : Bytes) (r : Response) : Response := { r with body := body }

def withHeader (name : String) (value : Bytes) (r : Response) : Except Failure Response :=
  match Message.headerName? name with
  | none => .error (.internal "Invalid header name")
  | some name =>
    if Message.isHeaderValue value then .ok { r with headers := r.headers.set name value }
    else .error (.internal "Invalid header value")

def withCookie (name : String) (cookie : NewCookie) (r : Response) : Response :=
  { r with cookies := Named.put name cookie r.cookies }

def json (status : Status) (v : Json) : Response :=
  { status := status
    headers := Headers.empty.set "content-type" (Text.utf8 "application/json")
    body := Text.utf8 v.render }

def contentType? (r : Response) : Option String := r.headers.text? "content-type"

def sentHeaders (dateAfter : Int → String) (r : Response) : Except Failure Headers :=
  r.cookies.foldlM (fun headers (name, cookie) =>
    let value := Text.utf8 (cookie.headerText dateAfter name)
    if Message.isHeaderValue value then .ok (headers.append "set-cookie" value)
    else .error (.internal "Invalid cookie")) r.headers

end Response

end Accord

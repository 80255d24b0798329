import ServiceHost.Http.Message

/-!
The dump of a request: its first line, a line for each header field, an empty line and the body. Octets
that encode nothing show as replacement characters.
-/

namespace ServiceHost.RequestDump

open Http

/-- The end of a line. -/
def lineBreak : List Char := ['\r', '\n']

/-- The line of a header field. -/
def fieldLine (field : Field) : List Char :=
  field.1.text.toList ++ [':', ' '] ++ Text.decodeLenient field.2.octets ++ lineBreak

/-- The first line. -/
def requestLine (request : Request) : List Char :=
  request.method.name.toList ++ [' '] ++ request.target.render.toList ++ [' '] ++
    request.version.render.toList ++ lineBreak

/-- The dump as characters. -/
def chars (request : Request) : List Char :=
  requestLine request ++ request.headers.fields.flatMap fieldLine ++ lineBreak ++
    Text.decodeLenient request.body

/-- The dump of a request. -/
def render (request : Request) : String :=
  String.ofList (chars request)

end ServiceHost.RequestDump

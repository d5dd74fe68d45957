import Faultline.Scenario.Basic

/-! # The catalog

The scenarios that are there without being asked for: each aims at downloads from cloud storage.
-/

namespace Faultline.Scenario

/-- A scenario in which a download ends in an HTTP error. -/
def httpError (status : Nat) (message reason : String) : Template where
  name := "cloudfetch_" ++ (Number.ofNat status).text
  config :=
    { description :=
        "CloudFetch returns " ++ (Number.ofNat status).text ++ " " ++ message ++
          " (" ++ reason ++ ")"
      operation := .download
      fault := .returnError (.given (.ofNat status)) (.given message) }

def catalog : List Template :=
  [ ⟨"cloudfetch_expired_link",
      ⟨"CloudFetch link expires, driver should retry via FetchResults", .download, .expireLink⟩⟩,
    httpError 400 "Bad Request" "malformed request or missing parameters",
    httpError 403 "Forbidden" "expired link or insufficient permissions",
    httpError 404 "Not Found" "object does not exist",
    httpError 405 "Method Not Allowed" "incorrect HTTP method",
    httpError 412 "Precondition Failed" "condition not met",
    httpError 500 "Internal Server Error" "server-side error",
    httpError 503 "Service Unavailable" "rate limiting or temporary failure",
    ⟨"cloudfetch_timeout",
      ⟨"CloudFetch download times out (exceeds 60s) - configurable delay", .download,
        .delay (.given (.ofNat 65))⟩⟩,
    ⟨"cloudfetch_connection_reset",
      ⟨"Connection reset during CloudFetch download", .download, .closeConnection⟩⟩ ]

end Faultline.Scenario

import PackageFinder.Url.ParseError

/-!
# Failures of an exchange

Why a request could not be built, sent or answered.  A failure is told in layers, the outermost
first; its message joins them with colons.
-/

namespace PackageFinder.Http

/-- What happened to a request on its way. -/
inductive ConnectionFault where
  | unreachable
  | closed
  | timedOut
  | tunnelRefused
  deriving DecidableEq, Repr

/-- The layers of what happened. -/
def ConnectionFault.layers : ConnectionFault → List String
  | unreachable =>
    ["error trying to connect", "tcp connect error", "Network is unreachable (os error 101)"]
  | closed => ["connection closed before message completed"]
  | timedOut => ["operation timed out"]
  | tunnelRefused => ["error trying to connect", "unsuccessful tunnel"]

/-- Why an exchange failed. -/
inductive TransportError where
  | badAddress (cause : Url.ParseError)
  | schemeRefused (url : String)
  | notRequestable (url : String)
  | badUserAgent
  | badProxy (cause : Url.ParseError)
  | proxyRefused (url : String)
  | badProxyHost
  | unknownProxyScheme
  | sending (url : String) (fault : ConnectionFault)
  | tooManyRedirects (url : String)
  | truncatedBody
  | other (layers : List String)
  deriving DecidableEq, Repr

namespace TransportError

/-- The layers of a failure, the outermost first. -/
def layers : TransportError → List String
  | badAddress cause => ["builder error", cause.message]
  | schemeRefused url => ["builder error for url (" ++ url ++ ")", "URL scheme is not allowed"]
  | notRequestable url =>
    ["builder error for url (" ++ url ++ ")", "Parsed Url is not a valid Uri"]
  | badUserAgent => ["builder error", "failed to parse header value"]
  | badProxy cause => ["builder error", "builder error", cause.message]
  | proxyRefused url =>
    ["builder error", "builder error for url (" ++ url ++ ")", "URL scheme is not allowed"]
  | badProxyHost => ["builder error", "invalid uri character"]
  | unknownProxyScheme => ["builder error", "unknown proxy scheme"]
  | sending url fault => ("error sending request for url (" ++ url ++ ")") :: fault.layers
  | tooManyRedirects url =>
    ["error following redirect for url (" ++ url ++ ")", "too many redirects"]
  | truncatedBody =>
    ["request or response body error", "error reading a body from connection",
      "end of file before message length reached"]
  | other layers => layers

def message (e : TransportError) : String := ": ".intercalate e.layers

/-- The wordings from each layer inwards. -/
def chainOf : List String → List String
  | [] => []
  | l :: ls => ": ".intercalate (l :: ls) :: chainOf ls

/-- The failure, its cause, the cause of that, and so on. -/
def chain (e : TransportError) : List String := chainOf e.layers

end TransportError

end PackageFinder.Http

import VectorTable.Trace.Span

/-!
# Setting up tracing

Until tracing is set up, spans cost nothing and leave no trace. Once it is, they are exported under the name of a service: to an exporter that the caller provides, or to a collector at an address.
-/

namespace VectorTable.Trace

inductive Exporter
  | provided
  | collector (endpoint : Option String)
deriving DecidableEq, Repr

structure Setup where
  service : String
  exporter : Exporter
deriving DecidableEq, Repr

def logger : String := "alloydb_vectorstore.observability.tracing"

/-- The address of the collector unless another is given. -/
def defaultEndpoint : String := "http://localhost:4317"

/-- The address to which spans are sent, if they are sent to an address. An empty one counts as not given. -/
def Exporter.address? : Exporter → Option String
  | provided => none
  | collector endpoint =>
    some ((endpoint.filter fun endpoint => !endpoint.isEmpty).getD defaultEndpoint)

def Exporter.shown : Exporter → String
  | provided => "(custom exporter)"
  | collector endpoint => endpoint.getD "None"

/-- The name under which the spans of a service are exported. A service without a name goes by the name of its executable. -/
def Setup.serviceName (setup : Setup) (executable : String) : String :=
  if setup.service.isEmpty then "unknown_service:" ++ executable else setup.service

def Setup.install (setup : Setup) : Program Unit :=
  Program.log (Log.line logger .info
    ("Tracing enabled: service=" ++ setup.service ++ " endpoint=" ++ setup.exporter.shown))

end VectorTable.Trace

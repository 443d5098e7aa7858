import Mathlib.Algebra.Order.Ring.Int

/-! # Names and numbers shared by the whole dispatcher

The constants of define.h and servicestatus.h. A connection is an opaque pointer, a request id and
a proxy name are C strings, and a clock value is an unbounded integer wherever no addition wraps.
-/

namespace Gonggo

abbrev Rid := String
abbrev ProxyName := String
abbrev Conn := Nat
abbrev Time := Int

def uuidBufLen : Nat := 37

def clientReplyHeadersKey := "headers"
def clientReplyPayloadKey := "payload"
def clientReplyTimeoutKey := "timeout"
def clientReplyRequestStatusKey := "requestStatus"
def clientReplyServiceStatusKey := "serviceStatus"
def clientReplyServiceRidKey := "rid"
def clientReplyServiceProxyKey := "proxy"

def serviceHeadersKey := "headers"
def servicePayloadKey := "payload"
def serviceProxyKey := "proxy"
def serviceServiceKey := "service"
def serviceRidKey := "rid"

def gonggoServiceRequestDrop := "gonggorequestdrop"

inductive ServiceStatus
  | requestParseStatusAcknowledged
  | requestParseStatusHeadersMissing
  | requestParseStatusRidMissing
  | requestParseStatusRidOverlength
  | requestParseStatusServiceMissing
  | requestParseStatusServiceReserved
  | requestParseStatusPayloadMissing
  | requestParseStatusPayloadInvalid
  | requestParseStatusGonggoServiceInvalid
  | requestParseStatusTimeoutMissing
  | requestParseStatusTimeoutInvalid
  | requestStatusAnswered
  | requestStatusProxyAliveNotification
  | requestStatusExpired
  deriving DecidableEq, Repr

def ServiceStatus.code : ServiceStatus → Int
  | requestParseStatusAcknowledged => 1
  | requestParseStatusHeadersMissing => 2
  | requestParseStatusRidMissing => 3
  | requestParseStatusRidOverlength => 4
  | requestParseStatusServiceMissing => 5
  | requestParseStatusServiceReserved => 6
  | requestParseStatusPayloadMissing => 7
  | requestParseStatusPayloadInvalid => 8
  | requestParseStatusGonggoServiceInvalid => 9
  | requestParseStatusTimeoutMissing => 10
  | requestParseStatusTimeoutInvalid => 11
  | requestStatusAnswered => 20
  | requestStatusProxyAliveNotification => 21
  | requestStatusExpired => 22

def gonggoTestSuccess : Int := 1
def gonggoResponseDumpSuccess : Int := 1
def gonggoResponseDumpDbError : Int := 2
def proxyServiceStatusAliveStart : Int := 1
def proxyServiceStatusAliveTermination : Int := 2
def proxyServiceStatusMultirespondClearSuccess : Int := 3

/-- `time_t` addition, wrapping at 64 bits. -/
def timeAdd (a b : Time) : Time := (a + b).bmod (2 ^ 64)

end Gonggo

/-!
# A sample log

The report shows this log when no file is named: a session, its request, and the request made to the
backend.
-/

set_option autoImplicit false

namespace ProxyLog.Report

def sampleLines : List String := [
  "*   << Session  >> 1",
  "-   Begin          sess 0 HTTP/1",
  "-   SessOpen       192.168.65.1 38144 a0 172.17.0.2 8001 1730491198.071549 24",
  "-   Link           req 2 rxreq",
  "-   SessClose      REM_CLOSE 0.004",
  "-   End",
  "",
  "**  << Request  >> 2",
  "--  Begin          req 1 rxreq",
  "--  Timestamp      Start: 1730491198.071680 0.000000 0.000000",
  "--  ReqStart       192.168.65.1 38144 a0",
  "--  ReqMethod      GET",
  "--  ReqURL         /index.html?b=2&a=1",
  "--  ReqProtocol    HTTP/1.1",
  "--  ReqHeader      Host: www.example.com",
  "--  ReqHeader      X-Forwarded-For: 10.0.0.1",
  "--  ReqUnset       X-Forwarded-For: 10.0.0.1",
  "--  ReqHeader      X-Forwarded-For: 10.0.0.1, 192.168.65.1",
  "--  ReqHeader      Via: 1.1 varnish (Varnish/7.5)",
  "--  VCL_call       RECV",
  "--  ReqHeader      X-Debug: 1",
  "--  VCL_return     hash",
  "--  VCL_call       HASH",
  "--  VCL_return     lookup",
  "--  VCL_call       MISS",
  "--  VCL_return     fetch",
  "--  Link           bereq 3 fetch",
  "--  RespProtocol   HTTP/1.1",
  "--  RespStatus     200",
  "--  RespReason     OK",
  "--  RespHeader     Content-Type: text/html",
  "--  RespHeader     Content-Length: 612",
  "--  VCL_call       DELIVER",
  "--  RespUnset      Content-Length: 612",
  "--  RespHeader     X-Cache: MISS",
  "--  VCL_return     deliver",
  "--  ReqAcct        120 0 120 250 612 862",
  "--  End",
  "",
  "*** << BeReq    >> 3",
  "--- Begin          bereq 2 fetch",
  "--- BereqMethod    GET",
  "--- BereqURL       /index.html?b=2&a=1",
  "--- BereqHeader    Host: www.example.com",
  "--- VCL_call       BACKEND_FETCH",
  "--- VCL_return     fetch",
  "--- BerespStatus   200",
  "--- BerespHeader   Content-Type: text/html",
  "--- VCL_call       BACKEND_RESPONSE",
  "--- TTL            VCL 120 10 0 1730491198 cacheable",
  "--- VCL_return     deliver",
  "--- End"]

def sampleLog : String := String.join (sampleLines.map (· ++ "\n"))

end ProxyLog.Report

/-!
# Codes of record types

The type of a record is a 16-bit code. The codes that occur have names, under which they are shown.
-/

namespace FilterWatch.Dns

/-- The code of a record type. -/
abbrev TypeCode := UInt16

namespace TypeCode

def a : TypeCode := 1
def ns : TypeCode := 2
def cname : TypeCode := 5
def soa : TypeCode := 6
def null : TypeCode := 10
def ptr : TypeCode := 12
def mx : TypeCode := 15
def txt : TypeCode := 16
def aaaa : TypeCode := 28
def srv : TypeCode := 33
def opt : TypeCode := 41
def ixfr : TypeCode := 251
def axfr : TypeCode := 252
def any : TypeCode := 255

def names : List (TypeCode × String) :=
  [(0, "ZERO"), (a, "A"), (ns, "NS"), (cname, "CNAME"), (soa, "SOA"), (null, "NULL"), (ptr, "PTR"), (13, "HINFO"),
    (mx, "MX"), (txt, "TXT"), (24, "SIG"), (25, "KEY"), (aaaa, "AAAA"), (srv, "SRV"), (35, "NAPTR"), (37, "CERT"),
    (opt, "OPT"), (43, "DS"), (44, "SSHFP"), (46, "RRSIG"), (47, "NSEC"), (48, "DNSKEY"), (50, "NSEC3"),
    (51, "NSEC3PARAM"), (52, "TLSA"), (59, "CDS"), (60, "CDNSKEY"), (61, "OPENPGPKEY"), (62, "CSYNC"), (64, "SVCB"),
    (65, "HTTPS"), (250, "TSIG"), (ixfr, "IXFR"), (axfr, "AXFR"), (any, "ANY"), (257, "CAA"), (65305, "ANAME")]

/-- The name under which a type is shown. -/
def name (t : TypeCode) : String := (names.lookup t).getD "Unknown"

end TypeCode
end FilterWatch.Dns

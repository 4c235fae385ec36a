import HostProbe.Port

namespace HostProbe.Port

def services : List (Nat × String) :=
  [(21, "FTP"), (22, "SSH"), (23, "Telnet"), (25, "SMTP"), (53, "DNS"), (80, "HTTP"), (110, "POP3"),
   (143, "IMAP"), (443, "HTTPS"), (993, "IMAPS"), (995, "POP3S"), (3306, "MySQL"), (3389, "RDP"),
   (5432, "PostgreSQL"), (6379, "Redis"), (27017, "MongoDB")]

def service? (p : Port) : Option String := services.lookup p.number

end HostProbe.Port

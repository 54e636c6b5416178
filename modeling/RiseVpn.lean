import RiseVpn.Node.RuleMatching
import RiseVpn.Node.AckedCommands
import RiseVpn.Node.Identity
import RiseVpn.Node.TokenExpiry
import RiseVpn.Node.PriorityGate
import RiseVpn.Node.XrayCollector
import RiseVpn.Node.SeenMessages
import RiseVpn.Node.RevocationRace
import RiseVpn.Control.LedgerInvariant
import RiseVpn.Control.CreditKeys
import RiseVpn.Control.LiveLeases
import RiseVpn.Control.Notifications
import RiseVpn.Control.UsageBilling
import RiseVpn.Control.AdminAccess
import RiseVpn.Control.Trials
import RiseVpn.Control.Upgrades
import RiseVpn.Control.DeviceRace
import RiseVpn.Control.Login
import RiseVpn.Control.RateLimit
import RiseVpn.Fleet.SignedLeases
import RiseVpn.Fleet.ExhaustedQuota
import RiseVpn.Fleet.GraceLifting
import RiseVpn.Fleet.UsageStall
import RiseVpn.Fleet.FailedEnrolment
import RiseVpn.Fleet.CommandOrder
import RiseVpn.Fleet.ParsedDomains
import RiseVpn.Fleet.ComplianceList
import RiseVpn.Fleet.ComplianceFreshness
import RiseVpn.Fleet.Credentials

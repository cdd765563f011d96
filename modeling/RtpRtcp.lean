import RtpRtcp.Defines
import RtpRtcp.PayloadRegistry
import RtpRtcp.Receiver
import RtpRtcp.Statistics
import RtpRtcp.Ingress
import RtpRtcp.IngressProperties
import RtpRtcp.Configuration
import RtpRtcp.RetransmitProperties
import RtpRtcp.SequenceProperties
import RtpRtcp.ReportProperties
import RtpRtcp.CsrcProperties
import RtpRtcp.JitterProperties
import RtpRtcp.TimeoutProperties
import RtpRtcp.IdentityProperties
import RtpRtcp.QueryProperties
import RtpRtcp.SourceProperties
import RtpRtcp.PayloadProperties
import RtpRtcp.StreamRefinement
import RtpRtcp.Composition
import RtpRtcp.RtxFormat

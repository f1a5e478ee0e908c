import WiringQuote.Log.Record
import WiringQuote.Log.Setup
import WiringQuote.Proofs.Catalog.BucketPlaces
import WiringQuote.Proofs.Catalog.Choice
import WiringQuote.Proofs.Catalog.Offered
import WiringQuote.Proofs.Catalog.Omission
import WiringQuote.Proofs.Completion
import WiringQuote.Proofs.Decimal.Range
import WiringQuote.Proofs.Decimal.Value
import WiringQuote.Proofs.Enclosure.Tier
import WiringQuote.Proofs.FixedPoint
import WiringQuote.Proofs.Formula.Floors
import WiringQuote.Proofs.Formula.LookupKey
import WiringQuote.Proofs.Formula.Shapes
import WiringQuote.Proofs.LineItem.Conservation
import WiringQuote.Proofs.LineItem.Each
import WiringQuote.Proofs.LineItem.Identity
import WiringQuote.Proofs.LineItem.Switching
import WiringQuote.Proofs.LineItem.Units
import WiringQuote.Proofs.Pricing.Buckets
import WiringQuote.Proofs.Pricing.PriceTable
import WiringQuote.Proofs.Protection.Devices
import WiringQuote.Proofs.Protection.Ratios
import WiringQuote.Proofs.Protection.Units
import WiringQuote.Proofs.Quantity.Completion
import WiringQuote.Proofs.Quantity.Cycles
import WiringQuote.Proofs.Quantity.Reordering
import WiringQuote.Proofs.Quantity.SharedIds
import WiringQuote.Proofs.Service.Requests
import WiringQuote.Proofs.Session.Alternatives
import WiringQuote.Proofs.Session.Available
import WiringQuote.Proofs.Session.Canonical
import WiringQuote.Proofs.Session.Edits
import WiringQuote.Proofs.Session.Identified
import WiringQuote.Proofs.Session.Interrupted
import WiringQuote.Proofs.Session.LastWrite
import WiringQuote.Proofs.Session.Local
import WiringQuote.Proofs.Session.Merging
import WiringQuote.Proofs.Session.Quantities
import WiringQuote.Proofs.Session.Rejected
import WiringQuote.Proofs.Session.Removal
import WiringQuote.Proofs.Session.RoundTrip
import WiringQuote.Proofs.Session.SetQuantity
import WiringQuote.Proofs.Session.Shown
import WiringQuote.Proofs.Session.Swapped
import WiringQuote.Proofs.Session.Untouched
import WiringQuote.Proofs.Session.Validated
import WiringQuote.Settings.Database
import WiringQuote.Table.Reference

import HrirAtlas.Main
import HrirAtlas.Proofs.Coverage.Mirrorable
import HrirAtlas.Proofs.Import.Order
import HrirAtlas.Proofs.Load.Mapping
import HrirAtlas.Proofs.Import.ByData
import HrirAtlas.Proofs.Import.Extension
import HrirAtlas.Proofs.Exact.Rounding
import HrirAtlas.Proofs.Layout.Fit
import HrirAtlas.Proofs.Layout.Counts
import HrirAtlas.Proofs.Layout.Shell
import HrirAtlas.Proofs.Grid.Locate
import HrirAtlas.Proofs.Grid.Agreement
import HrirAtlas.Proofs.Layout.Usable
import HrirAtlas.Proofs.Layout.Columns
import HrirAtlas.Proofs.Layout.Finest
import HrirAtlas.Proofs.Layout.Answers
import HrirAtlas.Proofs.Import.Preparation
import HrirAtlas.Proofs.Import.Sizes
import HrirAtlas.Proofs.Magnitude.Attempts
import HrirAtlas.Proofs.Magnitude.Balance
import HrirAtlas.Proofs.Magnitude.Failures
import HrirAtlas.Proofs.MeasurementFile.Accepted
import HrirAtlas.Proofs.MeasurementFile.Refused
import HrirAtlas.Proofs.Views.Changes
import HrirAtlas.Proofs.Views.Contained
import HrirAtlas.Proofs.Layout.Density
import HrirAtlas.Proofs.Layout.Windows
import HrirAtlas.Proofs.Load.Retimed
import HrirAtlas.Proofs.Onset.Added
import HrirAtlas.Proofs.Parameters.Refused
import HrirAtlas.Proofs.Report.Delays
import HrirAtlas.Proofs.Signal.Reset
